import KvMarkup.Proofs.Edit.Insertion
import KvMarkup.Proofs.Number.Whole
import KvMarkup.Service

/-!
# Drops from a host

Whatever an environment says, there are settings for it, and the width of an indent level is the
whole number that the environment asks for, or the default one (`ofFields_environmentFields`).

A drop is carried out in steps, and two of them can break off: a number that is not finite has no
whole part, and nothing can be rounded to an indent level of no columns.  `addStepwise` takes these
steps one by one.  They never break off under the settings of a service, where the width is at least
one:

    addStepwise s.indentWidth source snippet line column =
      .ok (s.addWidget source snippet line column).value                           (addStepwise_eq)

What a drop comes to depends on whether its arguments are two texts and two finite numbers
(`addWidget_eq_done_iff`, `addWidget_eq_failed`).
-/

namespace KvMarkup

open KvMarkup.Edit KvMarkup.File KvMarkup.Number KvMarkup.Outline KvMarkup.Text

/-! ## The settings of an environment -/

namespace Settings

/-- The fields that settings are made of in an environment. -/
def environmentFields (get : String → Option String) : List (Data × Data) :=
  [(.str "registry_path", (((get "KVLENS_REGISTRY").filter (· != "")).map Data.str).getD .null),
   (.str "indent_width", .int (widthOf (get "KVLENS_INDENT_WIDTH"))),
   (.str "log_level", .str (uppercase ((get "KVLENS_LOG_LEVEL").getD "WARNING")))]

/-- The fields of an environment are accepted, like any others that fit. -/
theorem ofFields_environmentFields (get : String → Option String) :
    ofFields (environmentFields get) = .ok (ofEnvironment get) := by
  have hpath : pathField (environmentFields get) =
      .ok (((get "KVLENS_REGISTRY").filter (· != "")).map Path.ofText) := by
    unfold environmentFields
    cases (get "KVLENS_REGISTRY").filter (· != "") <;> rfl
  have hwidth : widthField (environmentFields get) =
      .ok (widthOf (get "KVLENS_INDENT_WIDTH")) := rfl
  have hlevel : levelField (environmentFields get) =
      .ok (uppercase ((get "KVLENS_LOG_LEVEL").getD "WARNING")) := rfl
  unfold ofFields
  rw [hpath, hwidth, hlevel]
  exact dif_pos (one_le_widthOf _)

/-- The environment has a text for the width that spells a whole number, at least one. -/
def AsksFor (get : String → Option String) (n : Int) : Prop :=
  ∃ text, get "KVLENS_INDENT_WIDTH" = some text ∧ Spells text.toList n ∧ 1 ≤ n

theorem indentWidth_of_asksFor {get : String → Option String} {n : Int} (h : AsksFor get n) :
    (ofEnvironment get).indentWidth = n := by
  obtain ⟨text, htext, hspells, hn⟩ := h
  show widthOf (get "KVLENS_INDENT_WIDTH") = n
  rw [htext, widthOf, Option.bind_some, integer?_eq_some_iff.mpr hspells]
  exact if_pos hn

theorem indentWidth_of_not_asksFor {get : String → Option String} (h : ∀ n, ¬AsksFor get n) :
    (ofEnvironment get).indentWidth = 4 := by
  show widthOf (get "KVLENS_INDENT_WIDTH") = 4
  unfold widthOf
  split
  · next n hn =>
    obtain ⟨text, htext, hinteger⟩ := Option.bind_eq_some_iff.mp hn
    rw [if_neg]
    intro hle
    exact h n ⟨text, htext, integer?_eq_some_iff.mp hinteger, hle⟩
  · rfl

end Settings

/-! ## Numbers that say where -/

/-- A whole number, or a finite floating-point number that is cut to one. -/
inductive IsCutTo : Data → Int → Prop where
  | int (n : Int) : IsCutTo (.int n) n
  | float {x : Binary64} {r : Rat} (h : x.toRat? = some r) : IsCutTo (.float x) (wholePart r)

theorem finiteNumber?_eq_some_iff {d : Data} {n : Int} :
    Service.finiteNumber? d = some n ↔ IsCutTo d n := by
  constructor
  · intro h
    cases d with
    | int m =>
      obtain rfl := Option.some.inj h
      exact .int m
    | float x =>
      rw [Service.finiteNumber?, truncate?_eq] at h
      obtain ⟨r, hr, rfl⟩ := Option.map_eq_some_iff.mp h
      exact .float hr
    | _ => cases h
  · intro h
    cases h with
    | int => rfl
    | float h => rw [Service.finiteNumber?, truncate?_eq, h, Option.map_some]

/-! ## The steps of a drop -/

/-- Why a step of a drop breaks off. -/
inductive DropFault where
  /-- A value without a whole part was to be cut to a whole number. -/
  | noWholePart
  /-- Nothing can be rounded to the indent level. -/
  | unrounded (e : EditError)

/-- The check that a value is a number, no truth value and finite. -/
def isFiniteNumber : Data → Bool
  | .int _ => true
  | .float x => x.toRat?.isSome
  | _ => false

/-- A number cut to a whole one. -/
def cut (d : Data) : Except DropFault Int :=
  match truncated? d with
  | some n => .ok n
  | none => .error .noWholePart

/-- A drop, one step after the other: the arguments are checked, the numbers cut, the snippet
inserted. -/
def addStepwise (width : Int) (source snippet line column : Data) : Except DropFault Result :=
  match source, snippet with
  | .str source, .str snippet =>
    if isFiniteNumber line && isFiniteNumber column then do
      let l ← cut line
      let c ← cut column
      let edited ← (insert? source snippet (l - 1) c width).mapError .unrounded
      .ok (.done edited.text)
    else .ok (.failed "Invalid arguments")
  | _, _ => .ok (.failed "Invalid arguments")

theorem isFiniteNumber_iff {d : Data} : isFiniteNumber d = true ↔ ∃ n, IsCutTo d n := by
  constructor
  · intro h
    cases d with
    | int n => exact ⟨n, .int n⟩
    | float x =>
      obtain ⟨r, hr⟩ := Option.isSome_iff_exists.mp h
      exact ⟨_, .float hr⟩
    | _ => cases h
  · rintro ⟨n, h⟩
    cases h with
    | int => rfl
    | float h => exact Option.isSome_iff_exists.mpr ⟨_, h⟩

theorem IsCutTo.cut_eq {d : Data} {n : Int} (h : IsCutTo d n) : cut d = .ok n := by
  cases h with
  | int => rfl
  | float h => rw [cut, truncated?, truncate?_eq, h, Option.map_some]

/-- Two texts and two finite numbers. -/
structure Accepts (source snippet line column : Data) (text inserted : String) (l c : Int) :
    Prop where
  source_eq : source = .str text
  snippet_eq : snippet = .str inserted
  line_cut : IsCutTo line l
  column_cut : IsCutTo column c

section
variable {source snippet line column : Data}

/-- With arguments that fit, a drop is the insertion. -/
theorem Accepts.addStepwise_eq {text inserted : String} {l c : Int}
    (h : Accepts source snippet line column text inserted l c) (width : Int) :
    addStepwise width source snippet line column =
      (insert? text inserted (l - 1) c width).mapError .unrounded >>= fun edited =>
        .ok (.done edited.text) := by
  obtain ⟨rfl, rfl, hline, hcolumn⟩ := h
  have hfinite : (isFiniteNumber line && isFiniteNumber column) = true := by
    rw [isFiniteNumber_iff.mpr ⟨l, hline⟩, isFiniteNumber_iff.mpr ⟨c, hcolumn⟩, Bool.and_self]
  rw [addStepwise, if_pos hfinite, hline.cut_eq, hcolumn.cut_eq]
  rfl

/-- Other arguments are refused before any step that can break off. -/
theorem addStepwise_of_not_accepts
    (h : ∀ text inserted l c, ¬Accepts source snippet line column text inserted l c) (width : Int) :
    addStepwise width source snippet line column = .ok (.failed "Invalid arguments") := by
  unfold addStepwise
  split
  · next text inserted =>
    rw [if_neg]
    intro hfinite
    obtain ⟨hline, hcolumn⟩ := Bool.and_eq_true_iff.mp hfinite
    obtain ⟨l, hl⟩ := isFiniteNumber_iff.mp hline
    obtain ⟨c, hc⟩ := isFiniteNumber_iff.mp hcolumn
    exact h text inserted l c ⟨rfl, rfl, hl, hc⟩
  · rfl

/-- A drop is done exactly with arguments that fit. -/
theorem addWidget_eq_done_iff {s : Service} {after : String} :
    (s.addWidget source snippet line column).value = .done after ↔ ∃ text inserted l c,
      Accepts source snippet line column text inserted l c ∧
      after = (insert text inserted (l - 1) c s.indentWidth).text := by
  unfold Service.addWidget
  constructor
  · intro h
    split at h
    · next text inserted l c hl hc =>
      exact ⟨text, inserted, l, c,
        ⟨rfl, rfl, finiteNumber?_eq_some_iff.mp hl, finiteNumber?_eq_some_iff.mp hc⟩,
        (Result.done.inj h).symm⟩
    · cases h
  · rintro ⟨text, inserted, l, c, ⟨rfl, rfl, hl, hc⟩, rfl⟩
    rw [finiteNumber?_eq_some_iff.mpr hl, finiteNumber?_eq_some_iff.mpr hc]

/-- A drop that is not done has failed for its arguments. -/
theorem addWidget_eq_failed {s : Service}
    (h : ∀ after, (s.addWidget source snippet line column).value ≠ .done after) :
    (s.addWidget source snippet line column).value = .failed "Invalid arguments" := by
  unfold Service.addWidget at h ⊢
  split
  · next text inserted l c hl hc =>
    rw [hl, hc] at h
    exact absurd rfl (h _)
  · rfl

/-- Under the settings of a service no step of a drop breaks off. -/
theorem addStepwise_eq (s : Service) (source snippet line column : Data) :
    addStepwise s.indentWidth source snippet line column =
      .ok (s.addWidget source snippet line column).value := by
  by_cases h : ∃ text inserted l c, Accepts source snippet line column text inserted l c
  · obtain ⟨text, inserted, l, c, haccepts⟩ := h
    have hwidth : 1 ≤ s.indentWidth := s.settings.one_le_indentWidth
    rw [haccepts.addStepwise_eq, insert?_eq_ok (by omega),
      addWidget_eq_done_iff.mpr ⟨text, inserted, l, c, haccepts, rfl⟩]
    rfl
  · simp only [not_exists] at h
    rw [addStepwise_of_not_accepts h, addWidget_eq_failed]
    intro after hdone
    obtain ⟨text, inserted, l, c, haccepts, -⟩ := addWidget_eq_done_iff.mp hdone
    exact h text inserted l c haccepts

end

/-- An indent level of no columns breaks a drop off. -/
example : addStepwise 0 (.str "Root:") (.str "B:") (.int 1) (.int 0) =
    .error (.unrounded .zeroWidth) := rfl

/-- **Drops from a host are total.**  Every environment has settings; their width is at least one:
the number that the environment asks for, or else four.  Under the settings of a service no step of
a drop breaks off, whatever its arguments are.  It is done exactly with two texts and two finite
numbers, and the text is then that of the insertion at the whole parts, the line counted from one;
with other arguments there is no text and a host learns that they are invalid. -/
theorem drops_total :
    (∀ get : String → Option String,
      Settings.ofFields (Settings.environmentFields get) = .ok (Settings.ofEnvironment get) ∧
      1 ≤ (Settings.ofEnvironment get).indentWidth ∧
      (∀ n, Settings.AsksFor get n → (Settings.ofEnvironment get).indentWidth = n) ∧
      ((∀ n, ¬Settings.AsksFor get n) → (Settings.ofEnvironment get).indentWidth = 4)) ∧
    ∀ (s : Service) (source snippet line column : Data), ∃ result,
      addStepwise s.indentWidth source snippet line column = .ok result ∧
      (s.addWidget source snippet line column).value = result ∧
      (∀ after, result = .done after ↔ ∃ text inserted l c,
        Accepts source snippet line column text inserted l c ∧
        after = (insert text inserted (l - 1) c s.indentWidth).text) ∧
      ((∀ after, result ≠ .done after) →
        result = .failed "Invalid arguments" ∧
        result.wire = record [("success", .bool false), ("error", .str "Invalid arguments")]) := by
  constructor
  · intro get
    exact ⟨Settings.ofFields_environmentFields get, (Settings.ofEnvironment get).one_le_indentWidth,
      fun _ => Settings.indentWidth_of_asksFor, Settings.indentWidth_of_not_asksFor⟩
  · intro s source snippet line column
    refine ⟨_, addStepwise_eq s source snippet line column, rfl, fun _ => addWidget_eq_done_iff, ?_⟩
    intro hnot
    rw [addWidget_eq_failed hnot]
    exact ⟨rfl, rfl⟩

/-- An environment that has one text for every name. -/
def sameEverywhere (text : String) : String → Option String := fun _ => some text

/-- The number two and a half. -/
def twoAndHalf : Data := .float ⟨0x4004000000000000⟩

/-- A service without a catalogue or parser, set up from an environment that asks for two columns in
digits of another script. -/
def narrow : Service := ⟨⟨[], []⟩, Settings.ofEnvironment (sameEverywhere " +٢\n"), none⟩

theorem drops_total_narrow :
    narrow.indentWidth = 2 ∧
    (Settings.ofEnvironment (sameEverywhere "2.0")).indentWidth = 4 ∧
    (narrow.addWidget (.str "Root:\n    A:") (.str "B:") twoAndHalf (.int 5)).value =
      .done (insert "Root:\n    A:" "B:" 1 5 2).text ∧
    (narrow.addWidget (.str "Root:") (.str "B:") (.float Binary64.notANumber) (.int 0)).value =
      .failed "Invalid arguments" := by
  obtain ⟨henvironment, hdrop⟩ := drops_total
  have hwidth : narrow.indentWidth = 2 :=
    (henvironment (sameEverywhere " +٢\n")).2.2.1 2
      ⟨_, rfl, integer?_eq_some_iff.mp (by decide), by decide⟩
  refine ⟨hwidth, (henvironment (sameEverywhere "2.0")).2.2.2 ?_, ?_, ?_⟩
  · rintro n ⟨text, htext, hspells, -⟩
    obtain rfl := Option.some.inj htext
    have hnone : integer? "2.0".toList = none := by decide
    rw [integer?_eq_some_iff.mpr hspells] at hnone
    cases hnone
  · obtain ⟨result, -, hvalue, hdone, -⟩ :=
      hdrop narrow (.str "Root:\n    A:") (.str "B:") twoAndHalf (.int 5)
    rw [hvalue, hdone]
    refine ⟨_, _, 2, 5, ⟨rfl, rfl, ?_, .int 5⟩, by rw [hwidth]; rfl⟩
    exact finiteNumber?_eq_some_iff.mp (by decide)
  · obtain ⟨result, -, hvalue, hdone, hfailed⟩ :=
      hdrop narrow (.str "Root:") (.str "B:") (.float Binary64.notANumber) (.int 0)
    rw [hvalue]
    refine (hfailed fun after h => ?_).1
    obtain ⟨_, _, l, _, haccepts, -⟩ := (hdone after).mp h
    have hnone : Service.finiteNumber? (.float Binary64.notANumber) = none := by decide
    rw [finiteNumber?_eq_some_iff.mpr haccepts.line_cut] at hnone
    cases hnone

end KvMarkup
