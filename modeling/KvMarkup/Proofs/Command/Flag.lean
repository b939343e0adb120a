import KvMarkup.Command.Run
import KvMarkup.Proofs.Command.Values

/-!
# A command line without one of its flags

Taking a flag out of the words of a command, wherever it stands — as a word of its own, or among
short options written together — leaves everything else that they give:

    readWords ps true (wordsWithout ps key words) =
      .ok (given.filter (·.1.key != key), others)                        (Reads.withoutFlag)

So the values are the same but for the key of the flag, and the request of a command without
`--in-place` is the one with it, only that the result is printed (`requestOf_wordsWithout`).
-/

namespace KvMarkup.Command

open KvMarkup.Text

/-! ## Taking a flag out -/

/-- A word of short options, behind its dash, without a flag.  From the first option on that takes a
value, everything stays. -/
def clusterWithout (ps : List Parameter) (key : String) : RawText → RawText
  | [] => []
  | c :: rest =>
    match optionNamed? ps [.char '-', c] with
    | none => c :: rest
    | some p =>
      if p.role == .flag then
        if p.key == key then clusterWithout ps key rest else c :: clusterWithout ps key rest
      else c :: rest

/-- A word of options without a flag: no word if nothing else was in it. -/
def wordWithout (ps : List Parameter) (key : String) (word : RawText) : List RawText :=
  match word with
  | .char '-' :: .char '-' :: _ =>
    match optionNamed? ps (word.takeWhile (· != .char '=')) with
    | some p => if p.key == key then [] else [word]
    | none => [word]
  | _ =>
    match clusterWithout ps key (word.drop 1) with
    | [] => []
    | kept => [.char '-' :: kept]

/-- A word of options whose last one takes the next word as its value. -/
def takesNext (ps : List Parameter) (word : RawText) : Bool :=
  (optionWord ps word).toOption.any (·.waiting.isSome)

/-- The words of a command without a flag; the first one may be the value of an option.  Such a
value stays, whatever it looks like, and so does everything after two dashes. -/
def wordsWithout (ps : List Parameter) (key : String) (isValue : Bool) :
    List RawText → List RawText
  | [] => []
  | word :: rest =>
    if isValue then word :: wordsWithout ps key false rest
    else if word == dashes then word :: rest
    else if isOptionWord word then
      wordWithout ps key word ++ wordsWithout ps key (takesNext ps word) rest
    else word :: wordsWithout ps key false rest

/-- A key of flags that need not be given. -/
structure FlagKey (ps : List Parameter) (key : String) : Prop where
  flag : ∀ p ∈ ps, p.key = key → p.role = .flag
  optional : ∀ p ∈ ps, p.key = key → p.required = false
  /-- Two dashes name no option. -/
  dashes : optionNamed? ps dashes = none

section
variable {ps : List Parameter} {key : String}

/-- What a word gives, without a flag. -/
def OptionWord.without (key : String) (w : OptionWord) : OptionWord :=
  ⟨w.given.filter (·.1.key != key), w.waiting⟩

theorem optionWord_short {c : Symbol} (hc : c ≠ .char '-') (rest : RawText) :
    optionWord ps (.char '-' :: c :: rest) = shortWord ps (c :: rest) := by
  unfold optionWord
  split
  · next h => simp_all
  · rfl

section
variable (hkey : FlagKey ps key)
include hkey

theorem shortWord_clusterWithout {cs : RawText} :
    ∀ {w : OptionWord}, shortWord ps cs = .ok w →
      shortWord ps (clusterWithout ps key cs) = .ok (w.without key) := by
  induction cs with
  | nil =>
    intro w h
    cases h
    rfl
  | cons c rest ih =>
    intro w h
    obtain ⟨p, hp⟩ := optionNamed?_of_shortWord h
    by_cases hrole : p.role = .flag
    · rw [shortWord_flag hp hrole] at h
      cases hmore : shortWord ps rest with
      | error e => simp [hmore, Except.map] at h
      | ok more =>
        simp only [hmore, Except.map, Except.ok.injEq] at h
        subst h
        simp only [clusterWithout, hp, hrole, beq_self_eq_true, if_true]
        by_cases hpkey : p.key = key
        · simp [hpkey, ih hmore, OptionWord.without]
        · simp [hpkey, shortWord_flag hp hrole, ih hmore, OptionWord.without, Except.map]
    · have hpkey : p.key ≠ key := fun h => hrole (hkey.flag p (mem_of_optionNamed? hp) h)
      simp only [clusterWithout, hp, beq_eq_false_iff_ne.mpr hrole, Bool.false_eq_true, if_false]
      rw [h]
      rw [shortWord_option hp hrole] at h
      split at h <;> cases h <;> simp [OptionWord.without, hpkey]

/-- A long option without a flag: nothing if it was the flag, and else the word itself. -/
theorem longWord_without {word : RawText} {w : OptionWord} (h : longWord ps word = .ok w) :
    ∃ p, optionNamed? ps (word.takeWhile (· != .char '=')) = some p ∧
      (p.key = key → w.given.filter (·.1.key != key) = [] ∧ w.waiting = none) ∧
      (p.key ≠ key → w.without key = w) := by
  unfold longWord at h
  simp only at h
  split at h
  · cases h
  · next p hp =>
    have hname := (Option.filter_eq_some_iff.mp hp).1
    refine ⟨p, hname, ?_, ?_⟩
    · intro hpkey
      rw [hkey.flag p (mem_of_optionNamed? hname) hpkey] at h
      split at h
      · cases h
        simp [hpkey]
      · cases h
      · next hrole => exact absurd rfl hrole
      · next hrole => exact absurd rfl hrole
    · intro hpkey
      split at h <;> cases h <;> simp [OptionWord.without, hpkey]

/-- A word of options without a flag is a word that gives the others, or no word if it gave nothing
else. -/
theorem wordWithout_cases {word : RawText} {w : OptionWord} (hoption : isOptionWord word = true)
    (hword : optionWord ps word = .ok w) (hdashes : word ≠ dashes) :
    (wordWithout ps key word = [] ∧ w.given.filter (·.1.key != key) = [] ∧ w.waiting = none) ∨
      ∃ kept, wordWithout ps key word = [kept] ∧ kept ≠ dashes ∧ isOptionWord kept = true ∧
        optionWord ps kept = .ok (w.without key) := by
  unfold wordWithout
  split
  · next cs =>
    obtain ⟨p, hp, hgone, hkept⟩ := longWord_without hkey hword
    rw [hp]
    by_cases hpkey : p.key = key
    · exact .inl ⟨by simp [hpkey], hgone hpkey⟩
    · refine .inr ⟨_, by simp [hpkey], hdashes, hoption, ?_⟩
      rw [hkept hpkey]
      exact hword
  · next hlong =>
    obtain ⟨c, rest, rfl⟩ : ∃ c rest, word = .char '-' :: c :: rest := by
      rcases word with _ | ⟨d, _ | ⟨c, rest⟩⟩
      · simp [isOptionWord] at hoption
      · simp [isOptionWord] at hoption
      · have hd : d = .char '-' := by simpa [isOptionWord] using hoption
        exact ⟨c, rest, by rw [hd]⟩
    have hc : c ≠ .char '-' := by
      rintro rfl
      exact hlong rest rfl
    rw [optionWord_short hc] at hword
    have hcluster := shortWord_clusterWithout hkey hword
    rw [List.drop_succ_cons, List.drop_zero]
    cases hkept : clusterWithout ps key (c :: rest) with
    | nil =>
      rw [hkept] at hcluster
      have hnothing : w.without key = ⟨[], none⟩ := (Except.ok.inj hcluster).symm
      exact .inl ⟨rfl, congrArg OptionWord.given hnothing, congrArg OptionWord.waiting hnothing⟩
    | cons d kept =>
      rw [hkept] at hcluster
      have hd : d ≠ .char '-' := by
        rintro rfl
        obtain ⟨p, hp⟩ := optionNamed?_of_shortWord hcluster
        rw [show [.char '-', .char '-'] = dashes from rfl, hkey.dashes] at hp
        cases hp
      refine .inr ⟨.char '-' :: d :: kept, rfl, ?_, ?_, ?_⟩
      · simp [dashes, hd]
      · simp [isOptionWord]
      · rw [optionWord_short hd]
        exact hcluster

/-- **Without one of its flags, a command line gives everything else that it gave.** -/
theorem Reads.withoutFlag {words : List RawText} {given : List Given} {others : List RawText}
    (h : Reads ps true words given others) :
    Reads ps true (wordsWithout ps key false words) (given.filter (·.1.key != key)) others := by
  induction h with
  | done => exact .done
  | dashes rest => exact .dashes rest
  | @options word w rest given others hdashes hoption hword hwaiting more ih =>
    have hnext : takesNext ps word = false := by
      simp [takesNext, hword, Except.toOption, hwaiting]
    have hwords : wordsWithout ps key false (word :: rest) =
        wordWithout ps key word ++ wordsWithout ps key false rest := by
      simp [wordsWithout, hdashes, hoption, hnext]
    rw [hwords, List.filter_append]
    rcases wordWithout_cases hkey hoption hword hdashes with
      ⟨hnone, hgiven, -⟩ | ⟨kept, hkept, hkeptDashes, hkeptOption, hkeptWord⟩
    · rw [hnone, hgiven]
      exact ih
    · rw [hkept]
      exact .options hkeptDashes hkeptOption hkeptWord hwaiting ih
  | @value word w p name value rest given others hdashes hoption hword hwaiting more ih =>
    have hp := (optionWord_within hword).waiting _ hwaiting
    have hpkey : p.key ≠ key := fun h => hp.2 (hkey.flag p hp.1 h)
    have hnext : takesNext ps word = true := by
      simp [takesNext, hword, Except.toOption, hwaiting]
    have hwords : wordsWithout ps key false (word :: value :: rest) =
        wordWithout ps key word ++ value :: wordsWithout ps key false rest := by
      simp [wordsWithout, hdashes, hoption, hnext]
    rw [hwords, List.filter_append, List.filter_cons_of_pos (by simpa using hpkey)]
    rcases wordWithout_cases hkey hoption hword hdashes with
      ⟨-, -, hnone⟩ | ⟨kept, hkept, hkeptDashes, hkeptOption, hkeptWord⟩
    · rw [hwaiting] at hnone
      cases hnone
    · rw [hkept]
      exact .value hkeptDashes hkeptOption hkeptWord hwaiting ih
  | @other word rest given others hdashes hoption hmixed more ih =>
    have hwords : wordsWithout ps key false (word :: rest) =
        word :: wordsWithout ps key false rest := by
      simp [wordsWithout, hdashes, hoption]
    rw [hwords]
    exact .other hdashes hoption hmixed ih
  | stop hdashes hoption hmixed => cases hmixed

/-- The flag goes out of a cluster as well, and the value of an option stays. -/
example : wordsWithout Verb.insert.parameters inPlaceFlag.key false
    ["a.kv", "-il0", "-s", "-i", "--in-place"] =
      (["a.kv", "-l0", "-s", "-i"] : List RawText) := by decide

/-! ## The values -/

theorem givenBy_without (options : List Given) (others : List RawText) :
    givenBy ps (options.filter (·.1.key != key)) others =
      (givenBy ps options others).filter (·.1.key != key) := by
  unfold givenBy
  rw [List.filter_append]
  congr 1
  symm
  rw [List.filter_eq_self]
  intro g hg
  have hargument := List.mem_filter.mp (assign_mem others g hg)
  have hrole : g.1.role = .argument := by simpa using hargument.2
  have : g.1.key ≠ key := by
    intro h
    have hflag := hkey.flag g.1 hargument.1 h
    rw [hrole] at hflag
    cases hflag
  simpa using this

/-- The flag comes to nothing, and every other parameter to what it came to. -/
theorem checkParameter_without (tree : File.Tree) (given : List Given) {p : Parameter}
    (hp : p ∈ ps) :
    checkParameter tree (given.filter (·.1.key != key)) p =
      if p.key = key then .ok [] else checkParameter tree given p := by
  unfold checkParameter
  rw [← List.filter_reverse, List.find?_filter]
  by_cases h : p.key = key
  · have hnone : given.reverse.find? (fun g => (g.1.key != key) && (g.1.key == p.key)) = none := by
      rw [List.find?_eq_none]
      intro g _
      simp [h]
    rw [if_pos h]
    simp only [Bool.decide_and, Bool.decide_eq_true, hnone, hkey.optional p hp h]
    rfl
  · have hsame : (fun g : Given => (g.1.key != key) && (g.1.key == p.key)) =
        fun g => g.1.key == p.key := by
      funext g
      by_cases hg : g.1.key = p.key <;> simp [hg, h]
    rw [if_neg h]
    simp only [Bool.decide_and, Bool.decide_eq_true, hsame]

/-- Without one of its flags, a command line that does not ask for help comes to the same values,
less that of the flag. -/
theorem readValues_wordsWithout (hps : KeyedApart ps) {tree : File.Tree}
    {words left : List RawText} {vs : Values}
    (h : readValues tree ps true words = .ok (vs, left)) (hhelp : vs.has helpFlag.key = false) :
    ∃ vs', readValues tree ps true (wordsWithout ps key false words) = .ok (vs', left) ∧
      (∀ k, k ≠ key → vs'.lookup k = vs.lookup k) ∧ vs'.lookup key = none := by
  obtain ⟨options, others, hreads, hall, rfl, rfl⟩ := readValues_eq_ok_iff.mp h
  have hreads' := hreads.withoutFlag hkey
  have hgiven := givenBy_mem hreads
  have hgiven' := givenBy_mem hreads'
  rw [givenBy_without hkey] at hgiven'
  have hnoHelp := not_asksForHelp tree hhelp
  have hnoHelp' := not_asksForHelp_filter hnoHelp (·.1.key != key)
  have hmem {p : Parameter} := mem_checkingOrder (p := p) hgiven hnoHelp
  have hmem' {p : Parameter} := mem_checkingOrder (p := p) hgiven' hnoHelp'
  have hown : ∀ p ∈ ps, ownValues tree ((givenBy ps options others).filter (·.1.key != key)) p =
      if p.key = key then [] else ownValues tree (givenBy ps options others) p := by
    intro p hp
    unfold ownValues
    rw [checkParameter_without hkey tree _ hp]
    split <;> rfl
  refine ⟨_, readValues_eq_ok_iff.mpr ⟨_, others, hreads', ?_, rfl, rfl⟩, ?_, ?_⟩
  · intro p hp
    rw [givenBy_without hkey] at hp ⊢
    have hp := hmem'.mp hp
    rw [checkParameter_without hkey tree _ hp, hown p hp]
    split
    · rfl
    · exact hall p (hmem.mpr hp)
  · intro k hk
    rw [givenBy_without hkey]
    by_cases hparameter : ∃ p ∈ ps, p.key = k
    · obtain ⟨p, hp, rfl⟩ := hparameter
      rw [lookup_checked tree hgiven' hnoHelp' hps hp, lookup_checked tree hgiven hnoHelp hps hp,
        hown p hp, if_neg hk]
    · have hforeign : ∀ p ∈ ps, p.key ≠ k := fun p hp h => hparameter ⟨p, hp, h⟩
      rw [lookup_checked_eq_none tree hgiven' hnoHelp' hforeign,
        lookup_checked_eq_none tree hgiven hnoHelp hforeign]
  · rw [givenBy_without hkey]
    by_cases hparameter : ∃ p ∈ ps, p.key = key
    · obtain ⟨p, hp, rfl⟩ := hparameter
      rw [lookup_checked tree hgiven' hnoHelp' hps hp, hown p hp, if_pos rfl]
      rfl
    · exact lookup_checked_eq_none tree hgiven' hnoHelp' fun p hp h => hparameter ⟨p, hp, h⟩

end

end

/-! ## Requests -/

/-- The key of the flag that saves results is one of flags, in every command. -/
theorem flagKey_inPlace (v : Verb) : FlagKey v.parameters inPlaceFlag.key := by
  cases v <;> exact ⟨by decide, by decide, by decide⟩

theorem keyedApart_parameters (v : Verb) : KeyedApart v.parameters := by
  cases v <;> decide

/-- The file that a request saves its result in. -/
def Request.savesTo? : Request → Option File.Path
  | .insert file _ _ _ true => some file
  | .move file _ _ _ true => some file
  | _ => none

/-- The request with its result printed. -/
def Request.printing : Request → Request
  | .insert file line column what _ => .insert file line column what false
  | .move file ast source target _ => .move file ast source target false
  | request => request

section
variable {vs vs' : Values} (hsame : ∀ k, k ≠ inPlaceFlag.key → vs'.lookup k = vs.lookup k)
include hsame

theorem insertionOf_congr : insertionOf vs' = insertionOf vs := by
  unfold insertionOf Values.text?
  rw [hsame "--snippet" (by decide), hsame "--widget" (by decide)]

/-- Without the flag, the values of a command make the request that prints. -/
theorem Request.ofValues_printing (v : Verb) (hnone : vs'.lookup inPlaceFlag.key = none) :
    Request.ofValues v vs' = (Request.ofValues v vs).map Request.printing := by
  have hpath : ∀ k, k ≠ inPlaceFlag.key → vs'.path? k = vs.path? k := by
    intro k hk
    unfold Values.path?
    rw [hsame k hk]
  have hinteger : ∀ k, k ≠ inPlaceFlag.key → vs'.integer? k = vs.integer? k := by
    intro k hk
    unfold Values.integer?
    rw [hsame k hk]
  have htext : ∀ k, k ≠ inPlaceFlag.key → vs'.text? k = vs.text? k := by
    intro k hk
    unfold Values.text?
    rw [hsame k hk]
  have hhas : ∀ k, k ≠ inPlaceFlag.key → vs'.has k = vs.has k := by
    intro k hk
    unfold Values.has
    rw [hsame k hk]
  have hprint : vs'.has inPlaceFlag.key = false := by
    unfold Values.has
    rw [hnone]
    rfl
  unfold Request.ofValues
  rw [hpath kvFile.key (by decide), hpath astFile.key (by decide),
    hinteger lineOption.key (by decide), insertionOf_congr hsame, hprint]
  rw [hhas "--json" (by decide), hinteger "--character" (by decide),
    hinteger "--column" (by decide), htext "--source" (by decide), htext "--target" (by decide),
    hpath "--root" (by decide), htext "--category" (by decide)]
  cases present kvFile (vs.path? kvFile.key) <;> cases present astFile (vs.path? astFile.key) <;>
    cases present lineOption (vs.integer? lineOption.key) <;> cases insertionOf vs <;>
    cases v <;> rfl

end

/-- **The words without the flag ask for the same, only that the result is printed.** -/
theorem requestOf_wordsWithout {tree : File.Tree} {v : Verb} {words : List RawText}
    {request : Request} (h : requestOf tree v words = .ok request) :
    requestOf tree v (wordsWithout v.parameters inPlaceFlag.key false words) =
      .ok request.printing := by
  unfold requestOf commandValues at h ⊢
  obtain ⟨vs, hvalues, hrequest⟩ := bind_eq_ok_iff.mp h
  obtain ⟨⟨read, left⟩, hread, hleft⟩ := bind_eq_ok_iff.mp (mapError_eq_ok_iff.mp hvalues)
  -- No word is left over, or help was asked for and there is no request.
  simp only at hleft
  split at hleft
  · next hcomplete =>
    obtain rfl := Except.ok.inj hleft
    split at hrequest
    · cases hrequest
    · next hnoHelp =>
      have hhelp : read.has helpFlag.key = false := by simpa using hnoHelp
      obtain ⟨vs', hread', hsame, hnone⟩ :=
        readValues_wordsWithout (flagKey_inPlace v) (keyedApart_parameters v) hread hhelp
      have hhelp' : vs'.has helpFlag.key = read.has helpFlag.key := by
        unfold Values.has
        rw [hsame helpFlag.key (by decide)]
      refine bind_eq_ok_iff.mpr ⟨vs', mapError_eq_ok_iff.mpr (bind_eq_ok_iff.mpr ?_), ?_⟩
      · exact ⟨(vs', left), hread', by simp only [hhelp', if_pos hcomplete]⟩
      · rw [hhelp', if_neg hnoHelp, reported, Request.ofValues_printing hsame v hnone,
          mapError_eq_ok_iff.mp hrequest]
        rfl
  · cases hleft

end KvMarkup.Command
