import KvMarkup.Command.Parameter
import KvMarkup.Data.Fault

/-!
# The values of a command line

Reading the words of a command gives the parameters that were given, and each parameter of the
command is then checked against them.  What a key holds afterwards is what its parameter came to,
whatever the order in which the parameters were checked:

    readValues tree ps mixed words = .ok (vs, left) ↔ …                  (readValues_eq_ok_iff)
    ((checkingOrder ps given).flatMap (ownValues tree given)).lookup p.key =
      (ownValues tree given p).lookup p.key                              (lookup_checked)
-/

namespace KvMarkup.Command

open KvMarkup.Text

/-- Parameters that their keys tell apart. -/
def KeyedApart (ps : List Parameter) : Prop := ∀ p ∈ ps, ∀ q ∈ ps, p.key = q.key → p = q

instance (ps : List Parameter) : Decidable (KeyedApart ps) :=
  inferInstanceAs (Decidable (∀ p ∈ ps, ∀ q ∈ ps, p.key = q.key → p = q))

/-! ## What was given -/

section
variable {ps : List Parameter}

theorem mem_of_optionNamed? {name : RawText} {p : Parameter} (h : optionNamed? ps name = some p) :
    p ∈ ps :=
  List.mem_of_find?_eq_some h

/-! ### Words of options -/

section
variable {c : Symbol} {p : Parameter} (hp : optionNamed? ps [.char '-', c] = some p)
include hp

theorem shortWord_flag (hrole : p.role = .flag) (rest : RawText) :
    shortWord ps (c :: rest) =
      (shortWord ps rest).map fun more => ⟨(p, none) :: more.given, more.waiting⟩ := by
  simp only [shortWord, hp, hrole, beq_self_eq_true, if_true]
  cases shortWord ps rest <;> rfl

theorem shortWord_option (hrole : p.role ≠ .flag) (rest : RawText) :
    shortWord ps (c :: rest) =
      .ok (if rest.isEmpty then ⟨[], some (p, [.char '-', c])⟩
        else ⟨[(p, some rest)], none⟩) := by
  simp only [shortWord, hp, beq_eq_false_iff_ne.mpr hrole]
  cases rest <;> rfl

end

/-- The first of some short options is one of the command. -/
theorem optionNamed?_of_shortWord {c : Symbol} {rest : RawText} {w : OptionWord}
    (h : shortWord ps (c :: rest) = .ok w) :
    ∃ p, optionNamed? ps [.char '-', c] = some p := by
  cases hp : optionNamed? ps [.char '-', c] with
  | none =>
    simp only [shortWord, hp] at h
    cases h
  | some p => exact ⟨p, rfl⟩

/-- What a word gives, and what waits for its value, are parameters of the command; a flag does not
wait. -/
structure OptionWord.Within (ps : List Parameter) (w : OptionWord) : Prop where
  given : ∀ g ∈ w.given, g.1 ∈ ps
  waiting : ∀ g ∈ w.waiting, g.1 ∈ ps ∧ g.1.role ≠ .flag

theorem shortWord_within {cs : RawText} :
    ∀ {w : OptionWord}, shortWord ps cs = .ok w → w.Within ps := by
  induction cs with
  | nil =>
    intro w h
    cases h
    exact ⟨by simp, by simp⟩
  | cons c rest ih =>
    intro w h
    obtain ⟨p, hp⟩ := optionNamed?_of_shortWord h
    have hmem := mem_of_optionNamed? hp
    by_cases hrole : p.role = .flag
    · rw [shortWord_flag hp hrole] at h
      cases hmore : shortWord ps rest with
      | error e => simp [hmore, Except.map] at h
      | ok more =>
        simp only [hmore, Except.map, Except.ok.injEq] at h
        subst h
        exact ⟨by simpa [hmem] using (ih hmore).given, (ih hmore).waiting⟩
    · rw [shortWord_option hp hrole] at h
      split at h <;> cases h
      · exact ⟨by simp, by simpa using ⟨hmem, hrole⟩⟩
      · exact ⟨by simpa using hmem, by simp⟩

theorem longWord_within {word : RawText} {w : OptionWord} (h : longWord ps word = .ok w) :
    w.Within ps := by
  simp only [longWord] at h
  split at h
  · cases h
  · rename_i p hp
    have hmem := mem_of_optionNamed? (Option.filter_eq_some_iff.mp hp).1
    split at h
    · cases h
      exact ⟨by simpa using hmem, by simp⟩
    · cases h
    · next hrole =>
      cases h
      exact ⟨by simp, by simpa using ⟨hmem, fun hflag => hrole hflag⟩⟩
    · cases h
      exact ⟨by simpa using hmem, by simp⟩

theorem optionWord_within {word : RawText} {w : OptionWord} (h : optionWord ps word = .ok w) :
    w.Within ps := by
  unfold optionWord at h
  split at h
  · exact longWord_within h
  · exact shortWord_within h

/-! ### The words of a command -/

/-- How words are read to their end: the parameters given by them, and the other words. -/
inductive Reads (ps : List Parameter) (mixed : Bool) :
    List RawText → List Given → List RawText → Prop
  | done : Reads ps mixed [] [] []
  | dashes (rest : List RawText) : Reads ps mixed (Command.dashes :: rest) [] rest
  | options {word : RawText} {w : OptionWord} {rest : List RawText} {given : List Given}
      {others : List RawText} (hdashes : word ≠ dashes) (hoption : isOptionWord word = true)
      (hword : optionWord ps word = .ok w) (hwaiting : w.waiting = none)
      (more : Reads ps mixed rest given others) :
      Reads ps mixed (word :: rest) (w.given ++ given) others
  | value {word : RawText} {w : OptionWord} {p : Parameter} {name value : RawText}
      {rest : List RawText} {given : List Given} {others : List RawText} (hdashes : word ≠ dashes)
      (hoption : isOptionWord word = true) (hword : optionWord ps word = .ok w)
      (hwaiting : w.waiting = some (p, name)) (more : Reads ps mixed rest given others) :
      Reads ps mixed (word :: value :: rest) (w.given ++ (p, some value) :: given) others
  | other {word : RawText} {rest : List RawText} {given : List Given} {others : List RawText}
      (hdashes : word ≠ dashes) (hoption : isOptionWord word = false) (hmixed : mixed = true)
      (more : Reads ps mixed rest given others) :
      Reads ps mixed (word :: rest) given (word :: others)
  | stop {word : RawText} {rest : List RawText} (hdashes : word ≠ dashes)
      (hoption : isOptionWord word = false) (hmixed : mixed = false) :
      Reads ps mixed (word :: rest) [] (word :: rest)

theorem reads_of_readWords {mixed : Bool} (words : List RawText) :
    ∀ {given : List Given} {others : List RawText},
      readWords ps mixed words = .ok (given, others) → Reads ps mixed words given others := by
  fun_induction readWords ps mixed words with
  | case1 =>
    intro given others h
    cases h
    exact .done
  | case2 word rest hdashes =>
    intro given others h
    cases h
    rw [beq_iff_eq.mp hdashes]
    exact .dashes rest
  | case3 word rest hdashes hoption ih ihValue =>
    intro given others h
    have hdashes : word ≠ dashes := by simpa using hdashes
    cases hword : optionWord ps word with
    | error e => simp [hword, bind, Except.bind] at h
    | ok w =>
      simp only [hword, bind, Except.bind] at h
      cases hwaiting : w.waiting with
      | none =>
        simp only [hwaiting] at h
        cases hmore : readWords ps mixed rest with
        | error e => simp [hmore] at h
        | ok more =>
          simp only [hmore] at h
          cases h
          exact .options hdashes hoption hword hwaiting (ih hmore)
      | some waiting =>
        simp only [hwaiting] at h
        cases rest with
        | nil => cases h
        | cons value rest =>
          cases hmore : readWords ps mixed rest with
          | error e => simp [hmore] at h
          | ok more =>
            simp only [hmore] at h
            cases h
            exact .value hdashes hoption hword hwaiting (ihValue hmore)
  | case4 word rest hdashes hoption hmixed ih =>
    intro given others h
    cases hmore : readWords ps mixed rest with
    | error e => simp [hmore, bind, Except.bind] at h
    | ok more =>
      simp only [hmore, bind, Except.bind] at h
      cases h
      exact .other (by simpa using hdashes) (by simpa using hoption) hmixed (ih hmore)
  | case5 word rest hdashes hoption hmixed =>
    intro given others h
    cases h
    exact .stop (by simpa using hdashes) (by simpa using hoption) (by simpa using hmixed)

theorem Reads.readWords_eq {mixed : Bool} {words : List RawText} {given : List Given}
    {others : List RawText} (h : Reads ps mixed words given others) :
    readWords ps mixed words = .ok (given, others) := by
  induction h with
  | done => rfl
  | dashes rest => simp [readWords]
  | options hdashes hoption hword hwaiting _ ih =>
    simp [readWords, hdashes, hoption, hword, hwaiting, ih, bind, Except.bind]
  | value hdashes hoption hword hwaiting _ ih =>
    simp [readWords, hdashes, hoption, hword, hwaiting, ih, bind, Except.bind]
  | other hdashes hoption hmixed _ ih =>
    subst hmixed
    simp [readWords, hdashes, hoption, ih, bind, Except.bind]
  | stop hdashes hoption hmixed =>
    simp [readWords, hdashes, hoption, hmixed]

theorem readWords_eq_ok_iff {mixed : Bool} {words : List RawText} {given : List Given}
    {others : List RawText} :
    readWords ps mixed words = .ok (given, others) ↔ Reads ps mixed words given others :=
  ⟨reads_of_readWords words, Reads.readWords_eq⟩

/-- The parameters that were given are those of the command. -/
theorem Reads.mem {mixed : Bool} {words : List RawText} {given : List Given}
    {others : List RawText} (h : Reads ps mixed words given others) : ∀ g ∈ given, g.1 ∈ ps := by
  induction h with
  | done => simp
  | dashes rest => simp
  | options _ _ hword _ _ ih =>
    intro g hg
    exact (List.mem_append.mp hg).elim ((optionWord_within hword).given g) (ih g)
  | value _ _ hword hwaiting _ ih =>
    intro g hg
    rcases List.mem_append.mp hg with hg | hg
    · exact (optionWord_within hword).given g hg
    · rcases List.mem_cons.mp hg with rfl | hg
      · exact ((optionWord_within hword).waiting _ hwaiting).1
      · exact ih g hg
  | other _ _ _ _ ih => exact ih
  | stop => simp

theorem assign_mem (words : List RawText) : ∀ g ∈ (assign ps words).1, g.1 ∈ ps := by
  fun_induction assign ps words with
  | case1 p ps w ws given left hassign ih =>
    simp only [hassign] at ih
    intro g hg
    rcases List.mem_cons.mp hg with rfl | hg
    · exact List.mem_cons_self
    · exact List.mem_cons_of_mem _ (ih g hg)
  | case2 => simp

end

/-! ## What the parameters come to -/

section
variable (tree : File.Tree) (given : List Given)

/-- The values that a parameter comes to; none if what was given does not fit. -/
def ownValues (p : Parameter) : Values := (checkParameter tree given p).toOption.getD []

/-- A parameter comes to a value under its own key, if it comes to any. -/
theorem key_of_mem_ownValues {p : Parameter} {e : String × Value}
    (he : e ∈ ownValues tree given p) : e.1 = p.key := by
  unfold ownValues checkParameter at he
  split at he
  · split at he <;> simp [Except.toOption] at he
  · simp only [Except.toOption, Option.getD_some, List.mem_singleton] at he
    rw [he]
  · split at he <;> simp only [Except.toOption, Option.getD_some, Option.getD_none,
      List.mem_singleton, List.not_mem_nil] at he
    rw [he]

theorem lookup_ownValues_of_ne {p : Parameter} {key : String} (h : p.key ≠ key) :
    (ownValues tree given p).lookup key = none := by
  rw [List.lookup_eq_none_iff]
  intro e he
  rw [key_of_mem_ownValues tree given he]
  simpa using h.symm

/-- The values of some parameters of a command hold under a key what its parameter comes to, if it
is one of them. -/
theorem lookup_flatMap_ownValues {ps qs : List Parameter} (hps : KeyedApart ps)
    (hqs : ∀ q ∈ qs, q ∈ ps) {p : Parameter} (hp : p ∈ ps) :
    (qs.flatMap (ownValues tree given)).lookup p.key =
      if p ∈ qs then (ownValues tree given p).lookup p.key else none := by
  induction qs with
  | nil => rfl
  | cons q qs ih =>
    obtain ⟨hq, hqs⟩ := List.forall_mem_cons.mp hqs
    rw [List.flatMap_cons, List.lookup_append, ih hqs]
    by_cases hqp : q = p
    · subst hqp
      rw [if_pos List.mem_cons_self]
      split
      · exact Option.or_self
      · exact Option.or_none
    · have hkey : q.key ≠ p.key := fun h => hqp (hps q hq p hp h)
      rw [lookup_ownValues_of_ne tree given hkey, Option.none_or]
      simp only [List.mem_cons, Ne.symm hqp, false_or]

/-- Parameters are checked together if each of them is, and come to what each of them does. -/
theorem mapM_checkParameter_iff (ps : List Parameter) :
    ∀ {values : List Values}, ps.mapM (checkParameter tree given) = .ok values ↔
      (∀ p ∈ ps, checkParameter tree given p = .ok (ownValues tree given p)) ∧
        values = ps.map (ownValues tree given) := by
  induction ps with
  | nil =>
    intro values
    simp [pure, Except.pure, eq_comm]
  | cons p ps ih =>
    intro values
    rw [List.mapM_cons, List.forall_mem_cons, List.map_cons]
    cases hp : checkParameter tree given p with
    | error e => simp [bind, Except.bind]
    | ok own =>
      have hown : ownValues tree given p = own := by rw [ownValues, hp]; rfl
      cases hps : ps.mapM (checkParameter tree given) with
      | error e =>
        have hnot : ¬∀ p ∈ ps, checkParameter tree given p = .ok (ownValues tree given p) := by
          intro hall
          rw [ih.mpr ⟨hall, rfl⟩] at hps
          cases hps
        simp [bind, Except.bind, hnot]
      | ok more =>
        obtain ⟨hall, hmore⟩ := ih.mp hps
        simp only [bind, Except.bind, pure, Except.pure, hown, Except.ok.injEq, true_and]
        rw [hmore]
        exact ⟨fun h => ⟨hall, h.symm⟩, fun h => h.2.symm⟩

end

section
variable (tree : File.Tree) {ps : List Parameter} {given : List Given}

/-- When help is asked for, its parameter comes to a value. -/
theorem has_of_asksForHelp (h : asksForHelp given = true) :
    Values.has ((checkingOrder ps given).flatMap (ownValues tree given)) helpFlag.key = true := by
  obtain ⟨g, hg, hhelp⟩ := List.any_eq_true.mp h
  have hown : ∃ v, ownValues tree given helpFlag = [(helpFlag.key, v)] := by
    unfold ownValues checkParameter
    cases hfind : given.reverse.find? (fun g => g.1.key == helpFlag.key) with
    | none =>
      have := List.find?_eq_none.mp hfind g (List.mem_reverse.mpr hg)
      simp [beq_iff_eq.mp hhelp] at this
    | some found =>
      obtain ⟨p, value⟩ := found
      cases value with
      | none => exact ⟨.given, rfl⟩
      | some raw => exact ⟨.text raw, rfl⟩
  obtain ⟨v, hv⟩ := hown
  rw [checkingOrder, if_pos h, List.flatMap_singleton, hv, Values.has, List.lookup_cons_self]
  rfl

theorem not_asksForHelp
    (h : Values.has ((checkingOrder ps given).flatMap (ownValues tree given)) helpFlag.key = false) :
    asksForHelp given = false := by
  cases hasks : asksForHelp given with
  | false => rfl
  | true =>
    rw [has_of_asksForHelp tree hasks] at h
    cases h

/-- With fewer parameters help is not asked for either. -/
theorem not_asksForHelp_filter (h : asksForHelp given = false) (keeps : Given → Bool) :
    asksForHelp (given.filter keeps) = false := by
  rw [asksForHelp, List.any_eq_false] at h ⊢
  intro g hg
  exact h g (List.mem_filter.mp hg).1

variable (hgiven : ∀ g ∈ given, g.1 ∈ ps) (hhelp : asksForHelp given = false)
include hgiven hhelp

/-- Unless help is asked for, every parameter of the command is checked, and no other. -/
theorem mem_checkingOrder {p : Parameter} : p ∈ checkingOrder ps given ↔ p ∈ ps := by
  rw [checkingOrder, hhelp, if_neg Bool.false_ne_true]
  simp only [List.mem_eraseDups, List.mem_append, List.mem_filter, List.mem_map]
  constructor
  · rintro ((⟨⟨g, hg, rfl⟩, -⟩ | ⟨hp, -⟩) | hp)
    · exact hgiven g hg
    · exact hp
    · exact hp
  · exact .inr

/-- A key that no parameter has holds nothing. -/
theorem lookup_checked_eq_none {key : String} (hkey : ∀ p ∈ ps, p.key ≠ key) :
    ((checkingOrder ps given).flatMap (ownValues tree given)).lookup key = none := by
  rw [List.lookup_eq_none_iff]
  intro e he
  obtain ⟨p, hp, he⟩ := List.mem_flatMap.mp he
  rw [key_of_mem_ownValues tree given he]
  simpa using (hkey p ((mem_checkingOrder hgiven hhelp).mp hp)).symm

/-- A key holds what its parameter comes to. -/
theorem lookup_checked (hps : KeyedApart ps) {p : Parameter} (hp : p ∈ ps) :
    ((checkingOrder ps given).flatMap (ownValues tree given)).lookup p.key =
      (ownValues tree given p).lookup p.key := by
  have hmem {q : Parameter} := mem_checkingOrder hgiven hhelp (p := q)
  rw [lookup_flatMap_ownValues tree given hps (fun q => hmem.mp) hp, if_pos (hmem.mpr hp)]

end

/-- The parameters that words give: options, and arguments in their order. -/
def givenBy (ps : List Parameter) (options : List Given) (others : List RawText) : List Given :=
  options ++ (assign (ps.filter (·.role == .argument)) others).1

theorem givenBy_mem {ps : List Parameter} {mixed : Bool} {words : List RawText}
    {options : List Given} {others : List RawText} (h : Reads ps mixed words options others) :
    ∀ g ∈ givenBy ps options others, g.1 ∈ ps := by
  intro g hg
  rcases List.mem_append.mp hg with hg | hg
  · exact h.mem g hg
  · exact (List.mem_filter.mp (assign_mem others g hg)).1

/-- Words have values if they can be read and every parameter that is checked fits. -/
theorem readValues_eq_ok_iff {tree : File.Tree} {ps : List Parameter} {mixed : Bool}
    {words : List RawText} {vs : Values} {left : List RawText} :
    readValues tree ps mixed words = .ok (vs, left) ↔
      ∃ options others, Reads ps mixed words options others ∧
        (∀ p ∈ checkingOrder ps (givenBy ps options others),
          checkParameter tree (givenBy ps options others) p =
            .ok (ownValues tree (givenBy ps options others) p)) ∧
        vs = (checkingOrder ps (givenBy ps options others)).flatMap
          (ownValues tree (givenBy ps options others)) ∧
        left = (assign (ps.filter (·.role == .argument)) others).2 := by
  unfold readValues
  rw [bind_eq_ok_iff]
  constructor
  · rintro ⟨⟨options, others⟩, hread, h⟩
    obtain ⟨values, hvalues, h⟩ := bind_eq_ok_iff.mp h
    obtain ⟨hall, rfl⟩ := (mapM_checkParameter_iff ..).mp hvalues
    simp only [Except.ok.injEq, Prod.mk.injEq] at h
    refine ⟨options, others, readWords_eq_ok_iff.mp hread, hall, ?_, h.2.symm⟩
    rw [← h.1, List.flatMap_def]
    rfl
  · rintro ⟨options, others, hreads, hall, rfl, rfl⟩
    refine ⟨(options, others), hreads.readWords_eq, bind_eq_ok_iff.mpr ?_⟩
    refine ⟨_, (mapM_checkParameter_iff ..).mpr ⟨hall, rfl⟩, ?_⟩
    rw [List.flatMap_def]
    rfl

end KvMarkup.Command
