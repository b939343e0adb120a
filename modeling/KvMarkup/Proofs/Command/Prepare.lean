import KvMarkup.Proofs.Command.Flag

/-!
# What a run prepares

Before a run carries out its request it finds the command among its words, reads the settings and
the catalogue, and checks the values of the command.  What comes of it depends on the service and
the request that it has then, and on the tree of files:

    (attempt i).1.value = i.prepare.bind fun p => (perform p.1 i.tree p.2).value   (attempt_value)

Without `--in-place` among the words of the command, the same service gets the same request, only
that the result is printed (`prepare_printing`).
-/

namespace KvMarkup.Command

open KvMarkup.Text

/-! ## The words before the command -/

/-- What options before a command give does not depend on what follows the name of the command. -/
theorem Reads.cut {ps : List Parameter} {words : List RawText} {given : List Given}
    {others : List RawText} (h : Reads ps false words given others) :
    ∀ {word : RawText} {rest : List RawText}, others = word :: rest →
      ∃ front, words = front ++ word :: rest ∧
        ∀ rest', Reads ps false (front ++ word :: rest') given (word :: rest') := by
  induction h with
  | done =>
    intro word rest hothers
    cases hothers
  | dashes others =>
    intro word rest hothers
    exact ⟨[Command.dashes], by rw [hothers]; rfl, fun rest' => .dashes (word :: rest')⟩
  | @options first w _ _ _ hdashes hoption hword hwaiting _ ih =>
    intro word rest hothers
    obtain ⟨front, hfront, hreads⟩ := ih hothers
    refine ⟨first :: front, by rw [hfront]; rfl, fun rest' => ?_⟩
    exact .options hdashes hoption hword hwaiting (hreads rest')
  | @value first w p name value _ _ _ hdashes hoption hword hwaiting _ ih =>
    intro word rest hothers
    obtain ⟨front, hfront, hreads⟩ := ih hothers
    refine ⟨first :: value :: front, by rw [hfront]; rfl, fun rest' => ?_⟩
    exact .value hdashes hoption hword hwaiting (hreads rest')
  | other _ _ hmixed => cases hmixed
  | stop hdashes hoption hmixed =>
    intro word rest hothers
    cases hothers
    exact ⟨[], rfl, fun rest' => .stop hdashes hoption hmixed⟩

/-- There are no arguments before a command, so the other words are left over. -/
theorem commonValues_eq_ok_iff {tree : File.Tree} {words : List RawText} {vs : Values}
    {left : List RawText} :
    commonValues tree words = .ok (vs, left) ↔
      ∃ options, Reads commonParameters false words options left ∧
        (∀ p ∈ checkingOrder commonParameters options,
          checkParameter tree options p = .ok (ownValues tree options p)) ∧
        vs = (checkingOrder commonParameters options).flatMap (ownValues tree options) ∧
        vs.has helpFlag.key = false := by
  have hassign : ∀ others, assign (commonParameters.filter (·.role == .argument)) others =
      ([], others) := by
    intro others
    rfl
  have hgiven : ∀ options others, givenBy commonParameters options others = options := by
    intro options others
    unfold givenBy
    rw [hassign, List.append_nil]
  have hread := @readValues_eq_ok_iff tree commonParameters false words
  simp only [hassign, hgiven] at hread
  constructor
  · intro h
    obtain ⟨⟨vs', rest⟩, hvalues, h⟩ := bind_eq_ok_iff.mp h
    obtain ⟨options, others, hreads, hall, rfl, rfl⟩ := hread.mp (mapError_eq_ok_iff.mp hvalues)
    simp only at h
    split at h
    · cases h
    · next hhelp =>
      cases h
      exact ⟨options, hreads, hall, rfl, by simpa using hhelp⟩
  · rintro ⟨options, hreads, hall, hvs, hhelp⟩
    refine bind_eq_ok_iff.mpr ⟨(vs, left), mapError_eq_ok_iff.mpr (hread.mpr ?_), ?_⟩
    · exact ⟨options, left, hreads, hall, hvs, rfl⟩
    · simp only [hhelp, Bool.false_eq_true, if_false]

theorem verbNamed_eq_ok_iff {tree : File.Tree} {word : RawText} {rest : List RawText} {v : Verb} :
    verbNamed tree word rest = .ok v ↔ Verb.ofName? word = some v := by
  unfold verbNamed
  cases Verb.ofName? word with
  | some u => simp
  | none =>
    simp only [reduceCtorEq, iff_false]
    intro h
    split at h
    · obtain ⟨-, -, h⟩ := bind_eq_ok_iff.mp h
      cases h
    · cases h

theorem split_eq_ok_iff {i : Invocation} {vs : Values} {v : Verb} {rest : List RawText} :
    split i = .ok (vs, v, rest) ↔
      i.words ≠ [] ∧ ∃ word, commonValues i.tree i.words = .ok (vs, word :: rest) ∧
        Verb.ofName? word = some v := by
  unfold split
  constructor
  · intro h
    split at h
    · cases h
    · next hwords =>
      obtain ⟨⟨vs', others⟩, hcommon, h⟩ := bind_eq_ok_iff.mp h
      cases others with
      | nil => cases h
      | cons word others =>
        obtain ⟨v', hv, h⟩ := bind_eq_ok_iff.mp h
        cases h
        exact ⟨by simpa using hwords, word, hcommon, verbNamed_eq_ok_iff.mp hv⟩
  · rintro ⟨hwords, word, hcommon, hv⟩
    rw [if_neg (by simpa using hwords)]
    refine bind_eq_ok_iff.mpr ⟨_, hcommon, ?_⟩
    exact bind_eq_ok_iff.mpr ⟨v, verbNamed_eq_ok_iff.mpr hv, rfl⟩

/-- The words of the command can be exchanged for others. -/
theorem split_cut {i : Invocation} {vs : Values} {v : Verb} {rest : List RawText}
    (h : split i = .ok (vs, v, rest)) :
    ∃ front, i.words = front ++ rest ∧
      ∀ rest', split { i with words := front ++ rest' } = .ok (vs, v, rest') := by
  obtain ⟨-, word, hcommon, hv⟩ := split_eq_ok_iff.mp h
  obtain ⟨options, hreads, hall, hvs, hhelp⟩ := commonValues_eq_ok_iff.mp hcommon
  obtain ⟨front, hfront, hreads'⟩ := hreads.cut rfl
  refine ⟨front ++ [word], by rw [hfront]; simp, fun rest' => split_eq_ok_iff.mpr ?_⟩
  refine ⟨by simp, word, ?_, hv⟩
  rw [List.append_assoc]
  exact commonValues_eq_ok_iff.mpr ⟨options, hreads' rest', hall, hvs, hhelp⟩

/-! ## Before the request -/

namespace Invocation

/-- The service that a run works with, and the request that it carries out. -/
def prepare (i : Invocation) : Except Stop (Service × Request) := do
  let (vs, v, words) ← split i
  let settings := settingsOf i.environment vs
  let _ ← (threshold settings.levelName).mapError .broken
  let catalog ← catalogOf i settings
  let request ← requestOf i.tree v words
  .ok (⟨catalog.value, settings, none⟩, request)

/-- The same command line, less `--in-place` among the words of the command. -/
def printing (i : Invocation) : Invocation :=
  match split i with
  | .error _ => i
  | .ok (_, v, rest) =>
    { i with words := i.words.take (i.words.length - rest.length) ++
        wordsWithout v.parameters inPlaceFlag.key false rest }

@[simp] theorem printing_tree (i : Invocation) : i.printing.tree = i.tree := by
  unfold printing
  split <;> rfl

end Invocation

theorem attempt_value (i : Invocation) :
    (attempt i).1.value = i.prepare.bind fun p => (perform p.1 i.tree p.2).value := by
  unfold attempt Invocation.prepare
  cases split i with
  | error s => rfl
  | ok found =>
    simp only [bind, Except.bind]
    cases threshold (settingsOf i.environment found.1).levelName with
    | error b => rfl
    | ok least =>
      simp only [mapError_ok]
      cases catalogOf i (settingsOf i.environment found.1) with
      | error s => rfl
      | ok catalog =>
        simp only
        cases requestOf i.tree found.2.1 found.2.2 with
        | error s => rfl
        | ok request => rfl

/-- **Without `--in-place`, the same service gets the same request, to be printed.** -/
theorem prepare_printing {i : Invocation} {service : Service} {request : Request}
    (h : i.prepare = .ok (service, request)) :
    i.printing.prepare = .ok (service, request.printing) := by
  unfold Invocation.prepare at h
  obtain ⟨⟨vs, v, rest⟩, hsplit, h⟩ := bind_eq_ok_iff.mp h
  obtain ⟨least, hleast, h⟩ := bind_eq_ok_iff.mp h
  obtain ⟨catalog, hcatalog, h⟩ := bind_eq_ok_iff.mp h
  obtain ⟨made, hrequest, h⟩ := bind_eq_ok_iff.mp h
  obtain ⟨front, hfront, hcut⟩ := split_cut hsplit
  have hprinting : i.printing =
      { i with words := front ++ wordsWithout v.parameters inPlaceFlag.key false rest } := by
    unfold Invocation.printing
    rw [hsplit]
    simp [hfront]
  unfold Invocation.prepare
  refine bind_eq_ok_iff.mpr ⟨(vs, v, wordsWithout v.parameters inPlaceFlag.key false rest), ?_, ?_⟩
  · rw [hprinting]
    exact hcut _
  · rw [hprinting]
    cases h
    refine bind_eq_ok_iff.mpr ⟨least, hleast, ?_⟩
    refine bind_eq_ok_iff.mpr ⟨catalog, hcatalog, ?_⟩
    exact bind_eq_ok_iff.mpr ⟨_, requestOf_wordsWithout hrequest, rfl⟩

/-! ## Plain command lines -/

/-- A command line without options before its command is split behind the command's name. -/
theorem split_of_command {i : Invocation} {word : RawText} {rest : List RawText} {v : Verb}
    (hwords : i.words = word :: rest) (hv : Verb.ofName? word = some v) :
    split i = .ok ([], v, rest) := by
  have hname : RawText.ofText v.name = word := by simpa using List.find?_some hv
  have hoption : word ≠ dashes ∧ isOptionWord word = false := by
    rw [← hname]
    cases v <;> decide
  have hrequired : ∀ p ∈ commonParameters, p.required = false := by decide
  have hmem {p : Parameter} : p ∈ checkingOrder commonParameters [] ↔ p ∈ commonParameters :=
    mem_checkingOrder (by simp) rfl
  have hcheck : ∀ p ∈ commonParameters, checkParameter i.tree [] p = .ok [] := fun p hp => by
    simp [checkParameter, hrequired p hp]
  have hown : ∀ p ∈ commonParameters, ownValues i.tree [] p = [] := fun p hp => by
    rw [ownValues, hcheck p hp]
    rfl
  refine split_eq_ok_iff.mpr ⟨by simp [hwords], word, ?_, hv⟩
  rw [hwords]
  refine commonValues_eq_ok_iff.mpr ⟨[], .stop hoption.1 hoption.2 rfl, ?_, ?_, rfl⟩
  · intro p hp
    rw [hcheck p (hmem.mp hp), hown p (hmem.mp hp)]
  · symm
    rw [List.flatMap_eq_nil_iff]
    exact fun p hp => hown p (hmem.mp hp)

/-- In an empty environment, a command line without options before its command gets the bundled
catalogue. -/
theorem prepare_of_command {i : Invocation} {word : RawText} {rest : List RawText} {v : Verb}
    {request : Request} (hwords : i.words = word :: rest) (hv : Verb.ofName? word = some v)
    (henvironment : i.environment = fun _ => none)
    (hrequest : requestOf i.tree v rest = .ok request) :
    i.prepare = .ok (⟨Catalog.bundled, settingsOf (fun _ => none) [], none⟩, request) := by
  have hleast : threshold (settingsOf (fun _ => none) []).levelName = .ok 30 := rfl
  have hcatalog : (settingsOf (fun _ => none) []).catalogPath = none := rfl
  unfold Invocation.prepare
  refine bind_eq_ok_iff.mpr ⟨_, split_of_command hwords hv, ?_⟩
  rw [henvironment]
  refine bind_eq_ok_iff.mpr ⟨30, mapError_eq_ok_iff.mpr hleast, ?_⟩
  refine bind_eq_ok_iff.mpr
    ⟨⟨Catalog.bundled, [Catalog.bundled.loadedNote i.bundledName]⟩, ?_, ?_⟩
  · unfold catalogOf
    rw [hcatalog]
  · exact bind_eq_ok_iff.mpr ⟨_, hrequest, rfl⟩

end KvMarkup.Command
