import KvMarkup.Proofs.Command.Saving
import KvMarkup.Proofs.Outline.Showable

/-!
# Outlines of malformed documents

A document is malformed in one of three ways, and they end a run differently.  A text that is no
JSON and a value that cannot be decoded are refused with a message.  A value that can be decoded may
still have something else than a name or a line where one is needed; then the outline cannot be
made, and the run breaks off (`outline_run_handled_iff`).  So does a run whose document has an
integer with too many digits.

Two things of a document are not read as they stand: half of a surrogate pair, for which there is no
character, and a NaN, which has no place among the lines.  What is printed is told for documents
without them (`ReadAsWritten`).
-/

namespace KvMarkup.Command

open KvMarkup.Text KvMarkup.Outline KvMarkup.Parsed

/-- The run ended with a message of what is wrong, and printed nothing. -/
def Outcome.RefusedWith (o : Outcome) (message : RawText) : Prop :=
  o.exitCode = 1 ∧ o.breakdown = none ∧ o.output = "" ∧
    ∃ notes, o.messages = notes ++ echoed ("Error: " ++ message ++ "\n")

/-- The run came to its end, with success or with a message. -/
def Outcome.Handled (o : Outcome) : Prop := o.succeeds = true ∨ ∃ message, o.RefusedWith message

/-! ## Documents that are read as they are written -/

/-- Hexadecimal digits of a code between two others. -/
def isCodeBetween (least greatest : Nat) (digits : List Char) : Bool :=
  (Json.hexCode? digits).any fun n => least ≤ n && n ≤ greatest

/-- An escape in a JSON text is half of a surrogate pair without the other half. -/
def hasLoneHalf : List Char → Bool
  | '\\' :: 'u' :: a :: b :: c :: d :: '\\' :: 'u' :: e :: f :: g :: h :: rest =>
    if isCodeBetween 0xD800 0xDBFF [a, b, c, d] && isCodeBetween 0xDC00 0xDFFF [e, f, g, h] then
      hasLoneHalf rest
    else
      isCodeBetween 0xD800 0xDFFF [a, b, c, d] ||
        hasLoneHalf ('\\' :: 'u' :: e :: f :: g :: h :: rest)
  | '\\' :: 'u' :: a :: b :: c :: d :: rest =>
    isCodeBetween 0xD800 0xDFFF [a, b, c, d] || hasLoneHalf rest
  | '\\' :: _ :: rest => hasLoneHalf rest
  | _ :: rest => hasLoneHalf rest
  | [] => false

mutual
/-- A NaN stands somewhere in a value. -/
def hasNaN : Data → Bool
  | .list items => anyNaN items
  | .tuple items => anyNaN items
  | .set items => anyNaN items
  | .map entries => entriesNaN entries
  | d => d.nan?.isSome
termination_by structural d => d
def anyNaN : List Data → Bool
  | [] => false
  | d :: ds => hasNaN d || anyNaN ds
termination_by structural ds => ds
def entriesNaN : List (Data × Data) → Bool
  | [] => false
  | (k, v) :: rest => hasNaN k || hasNaN v || entriesNaN rest
termination_by structural es => es
end

/-- A text of JSON and its value, which is the document as it stands in the text. -/
structure ReadAsWritten (text : List Char) (d : Data) : Prop where
  paired : hasLoneHalf text = false
  ordered : hasNaN d = false

/-! ## How a run ends -/

section
variable (tree : File.Tree) (messages : String)

theorem refusedWith_outcomeOf (message : RawText) :
    (outcomeOf tree messages (.error (.failed message))).RefusedWith message :=
  ⟨rfl, rfl, rfl, messages, rfl⟩

theorem not_handled_outcomeOf (b : Breakdown) :
    ¬(outcomeOf tree messages (.error (.broken b))).Handled := by
  rintro (h | ⟨_, -, h, -⟩)
  · cases h
  · cases h

end

/-! ## From the text to the outline -/

/-- What is printed of a document. -/
def printedOutline (service : Service) (m : Module Data Data) : String :=
  Json.pretty (.list (Node.wireAll (ofModule service.catalog.lookup.total m))) ++ "\n"

section
variable {service : Service} {tree : File.Tree} {ast : File.Path} {text : String}
  (htext : readText tree ast = .ok text)
include htext

theorem outline_of_unreadable {e : Json.Error} (h : Json.decode text.toList = .error e) :
    outline service tree ast true = .error
      (if e.reason == .numberTooLong then .broken .numberTooLong
      else .failed ("Invalid AST JSON in " ++ ast.text ++ ": " ++ e.message text.toList)) := by
  simp only [outline, readOutline, readModule, htext, h, bind, Except.bind]
  cases e.reason == Json.Reason.numberTooLong <;> rfl

theorem outline_of_undecodable {d : Data} {f : Fault} (h : Json.decode text.toList = .ok d)
    (hd : Module.decode d = .error f) :
    outline service tree ast true = .error
      (.failed ("Malformed AST in " ++ ast.text ++ ": missing or invalid " ++ f.message)) := by
  simp only [outline, readOutline, readModule, htext, h, hd, bind, Except.bind]

theorem outline_of_decoded {d : Data} {m : Module Data Data} (h : Json.decode text.toList = .ok d)
    (hd : Module.decode d = .ok m) :
    outline service tree ast true =
      match check service.catalog.lookup m with
      | .error f => .error (.broken (.fault f))
      | .ok _ => .ok (.print (printedOutline service m)) := by
  simp only [outline, readOutline, readModule, htext, h, hd, bind, Except.bind, Service.outlineOf,
    ofUnchecked]
  cases check service.catalog.lookup m <;> rfl

end

/-! ## Runs -/

section
variable {i : Invocation} {service : Service} {ast : File.Path} {bytes : List UInt8}
  {text : String} (hprepare : i.prepare = .ok (service, .outline ast true))
  (hbytes : i.tree.read ast.text = .ok bytes) (htext : decodeUtf8? bytes = some text)
include hprepare

theorem run_outline_eq : ∃ messages,
    run i = outcomeOf i.tree messages (outline service i.tree ast true) := by
  obtain ⟨messages, hrun⟩ := run_outcome i
  exact ⟨messages, by rw [hrun, hprepare]; rfl⟩

include hbytes htext

/-- **How an outline ends.**  It ends with a result or a message exactly when the document has no
integer with too many digits and, if it can be decoded, all its parts give what an outline needs of
them.  What can be decoded is printed then, and what cannot is refused with its first fault. -/
theorem outline_run_handled_iff :
    ((run i).Handled ↔
      (∀ e, Json.decode (universal text).toList = .error e → e.reason ≠ .numberTooLong) ∧
      ∀ d m, Json.decode (universal text).toList = .ok d → Module.decode d = .ok m →
        ∀ p ∈ m.parts, ShowsAll service.catalog.lookup p) ∧
    (∀ d f, Json.decode (universal text).toList = .ok d → Module.decode d = .error f →
      (run i).RefusedWith
        ("Malformed AST in " ++ ast.text ++ ": missing or invalid " ++ f.message)) ∧
    (∀ d m, Json.decode (universal text).toList = .ok d → Module.decode d = .ok m →
      (∀ p ∈ m.parts, ShowsAll service.catalog.lookup p) →
        (run i).succeeds = true ∧
          (ReadAsWritten (universal text).toList d →
            (run i).output = printedOutline service m)) := by
  obtain ⟨messages, hrun⟩ := run_outline_eq hprepare
  have hread := readText_eq_ok hbytes htext
  rw [hrun]
  refine ⟨?_, ?_, ?_⟩
  · cases h : Json.decode (universal text).toList with
    | error e =>
      rw [outline_of_unreadable hread h]
      by_cases he : e.reason = .numberTooLong
      · rw [if_pos (by simpa using he)]
        exact iff_of_false (not_handled_outcomeOf _ _ _) fun hlegible => hlegible.1 e rfl he
      · rw [if_neg (by simpa using he)]
        refine iff_of_true (.inr ⟨_, refusedWith_outcomeOf _ _ _⟩) ⟨?_, nofun⟩
        rintro _ ⟨⟩
        exact he
    | ok d =>
      cases hd : Module.decode d with
      | error f =>
        rw [outline_of_undecodable hread h hd]
        refine iff_of_true (.inr ⟨_, refusedWith_outcomeOf _ _ _⟩) ⟨nofun, ?_⟩
        rintro _ m ⟨⟩ hm
        rw [hd] at hm
        cases hm
      | ok m =>
        rw [outline_of_decoded hread h hd]
        cases hcheck : check service.catalog.lookup m with
        | error f =>
          refine iff_of_false (not_handled_outcomeOf _ _ _) fun hshows => ?_
          rw [check_eq_ok_iff.mpr (hshows.2 d m rfl hd)] at hcheck
          cases hcheck
        | ok =>
          refine iff_of_true (.inl rfl) ⟨nofun, ?_⟩
          rintro _ m' ⟨⟩ hm
          obtain rfl := Except.ok.inj (hd.symm.trans hm)
          exact check_eq_ok_iff.mp hcheck
  · intro d f h hd
    rw [outline_of_undecodable hread h hd]
    exact refusedWith_outcomeOf _ _ _
  · intro d m h hd hshows
    rw [outline_of_decoded hread h hd, check_eq_ok_iff.mpr hshows]
    exact ⟨rfl, fun _ => rfl⟩

end

/-! ## A name that is a sequence -/

/-- The outline of a document in a file with some contents. -/
def outlineRun (bytes : List UInt8) : Invocation :=
  ⟨["outline", "a.json", "--json"], fun _ => none, ⟨["w"], [(["w", "a.json"], bytes)], []⟩,
    "bundled"⟩

/-- The file of the document. -/
def documentFile : File.Path := ⟨"", ["a.json"]⟩

section
variable (bytes : List UInt8)

theorem outlineRun_prepare :
    (outlineRun bytes).prepare =
      .ok (⟨Catalog.bundled, settingsOf (fun _ => none) [], none⟩, .outline documentFile true) := by
  have hrequest : requestOf (outlineRun bytes).tree .outline ["a.json", "--json"] =
      .ok (.outline documentFile true) := by cbv
  exact prepare_of_command rfl rfl rfl hrequest

theorem outlineRun_read : (outlineRun bytes).tree.read documentFile.text = .ok bytes := by
  cbv

end

/-- A sequence is no document, and the message says so. -/
theorem outline_run_handled_sequence :
    (outlineRun (encodeUtf8 "[]")).prepare =
        .ok (⟨Catalog.bundled, settingsOf (fun _ => none) [], none⟩, .outline documentFile true) ∧
      decodeUtf8? (encodeUtf8 "[]") = some "[]" ∧
      (run (outlineRun (encodeUtf8 "[]"))).RefusedWith
        "Malformed AST in a.json: missing or invalid 'list' object has no attribute 'get'" ∧
      (run (outlineRun (encodeUtf8 "[]"))).Handled := by
  have htext : decodeUtf8? (encodeUtf8 "[]") = some "[]" := by cbv
  have hjson : Json.decode (universal "[]").toList = .ok (.list []) := by cbv
  obtain ⟨-, hrefused, -⟩ :=
    outline_run_handled_iff (outlineRun_prepare _) (outlineRun_read _) htext
  have hrun := hrefused _ _ hjson rfl
  exact ⟨outlineRun_prepare _, htext, hrun, .inr ⟨_, hrun⟩⟩

/-- A document whose root has an empty sequence for its name. -/
def oddRoot : String :=
  "\x7b\"root\": \x7b\"name\": [], \"line\": []\x7d\x7d"

/-- The document is JSON and is decoded, but the run breaks off at the name. -/
theorem outline_run_breaks_off :
    ∃ d m, Json.decode oddRoot.toList = .ok d ∧ Module.decode d = .ok m ∧
      (run (outlineRun (encodeUtf8 oddRoot))).breakdown = some (.fault (.notAKey "list")) ∧
      ¬(run (outlineRun (encodeUtf8 oddRoot))).Handled := by
  have htext : decodeUtf8? (encodeUtf8 oddRoot) = some oddRoot := by cbv
  have huniversal : universal oddRoot = oddRoot := by cbv
  have hread := readText_eq_ok (outlineRun_read (encodeUtf8 oddRoot)) htext
  rw [huniversal] at hread
  have hjson : Json.decode oddRoot.toList =
      .ok (.map [(.str "root", .map [(.str "name", .list []), (.str "line", .list [])])]) := by
    cbv
  have hmodule : Module.decode
      (.map [(.str "root", .map [(.str "name", .list []), (.str "line", .list [])])]) =
        .ok ⟨[], some ⟨.list [], .list [], none, [], [], [], none, none, none⟩⟩ := by
    cbv
  obtain ⟨messages, hrun⟩ := run_outline_eq (outlineRun_prepare (encodeUtf8 oddRoot))
  rw [outline_of_decoded hread hjson hmodule] at hrun
  have hbreak : run (outlineRun (encodeUtf8 oddRoot)) =
      outcomeOf _ messages (.error (.broken (.fault (.notAKey "list")))) := hrun
  refine ⟨_, _, hjson, hmodule, ?_, ?_⟩
  · rw [hbreak]
    rfl
  · rw [hbreak]
    exact not_handled_outcomeOf _ _ _

end KvMarkup.Command
