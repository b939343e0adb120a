import KvMarkup.Proofs.Command.Saving
import KvMarkup.Proofs.Edit.Refusal
import KvMarkup.Proofs.Text.Utf8

/-!
# Runs that edit nothing

A refused move and an insertion of blank lines give back the text that they were given.  Saved in
place, the text goes back into its file as it was read, and reading turned every line break into a
line feed:

    (run i).tree.read file.text = .ok (encodeUtf8 (universal text))

So the file keeps its bytes exactly when there is no carriage return in it (`idle_run_keeps_iff`).
-/

namespace KvMarkup.Command

open KvMarkup.Text KvMarkup.Outline

/-- A request that edits nothing: a snippet whose lines are blank, without its end mark, or a move
that is refused. -/
inductive Idle (service : Service) (tree : File.Tree) : Request → Prop
  | insert {file : File.Path} {line column : Int} {what : Insertion} {inPlace : Bool}
      {snippet : String} (hsnippet : snippetFor what = .ok (RawText.ofText snippet))
      (hblank : ∀ l ∈ (Edit.dropEndMark snippet.toList).splitOn '\n', isBlank l = true) :
      Idle service tree (.insert file line column what inPlace)
  | move {file ast : File.Path} {source : RawText} {target : Option RawText} {inPlace : Bool}
      {item : UncheckedNode} {node : Option UncheckedNode} {text : String}
      (hnodes : moveNodes service tree ast source target = .ok (item, node))
      (htext : readText tree file = .ok text) (hrefused : Edit.Refused text item node) :
      Idle service tree (.move file ast source target inPlace)

/-- A request that edits nothing saves the text that it read. -/
theorem perform_idle {service : Service} {tree : File.Tree} {request : Request}
    {file : File.Path} {text : String} (hidle : Idle service tree request)
    (hfile : request.savesTo? = some file) (htext : readText tree file = .ok text) :
    (perform service tree request).value = .ok (.save file text) := by
  cases hidle with
  | @insert _ line column what inPlace snippet hsnippet hblank =>
    cases inPlace with
    | false => cases hfile
    | true =>
      obtain rfl := Option.some.inj hfile
      simp only [perform, insert, hsnippet, htext, RawText.text?_ofText, RawText.standIn_ofText,
        Service.addWidget, Service.finiteNumber?, Edit.insert_of_blank hblank]
      rfl
  | @move _ ast source target inPlace item node _ hnodes htext' hrefused =>
    cases inPlace with
    | false => cases hfile
    | true =>
      obtain rfl := Option.some.inj hfile
      obtain rfl := Except.ok.inj (htext.symm.trans htext')
      obtain ⟨note, -, hnote⟩ := Edit.uncheckedMove_of_refused hrefused service.indentWidth
      simp only [perform, move, hnodes, htext, Service.move, hnote]
      rfl

section
variable {i : Invocation} {service : Service} {request : Request} {file : File.Path}
  {bytes : List UInt8} {text : String} (hprepare : i.prepare = .ok (service, request))
  (hfile : request.savesTo? = some file) (hidle : Idle service i.tree request)
  (hbytes : i.tree.read file.text = .ok bytes) (htext : decodeUtf8? bytes = some text)
include hprepare hfile hidle hbytes htext

/-- A run that edits nothing saves the text that it read. -/
theorem run_idle_eq : ∃ messages,
    run i = outcomeOf i.tree messages (.ok (.save file (universal text))) := by
  obtain ⟨messages, hrun⟩ := run_outcome i
  refine ⟨messages, ?_⟩
  rw [hrun, hprepare, Except.bind, perform_idle hidle hfile (readText_eq_ok hbytes htext)]

theorem run_idle_read :
    (run i).tree.read file.text = .ok (encodeUtf8 (universal text)) := by
  obtain ⟨messages, hrun⟩ := run_idle_eq hprepare hfile hidle hbytes htext
  rw [hrun, outcomeOf_save_tree]
  exact File.Tree.read_write hbytes _

/-- **A run that edits nothing writes its file as it was read**: with every line break as a line
feed.  So the file keeps its bytes exactly when it has no carriage return. -/
theorem idle_run_keeps_iff :
    (run i).succeeds = true ∧
      (run i).tree.read file.text = .ok (encodeUtf8 (universal text)) ∧
      ((run i).tree.read file.text = .ok bytes ↔ '\r' ∉ text.toList) := by
  have hread := run_idle_read hprepare hfile hidle hbytes htext
  refine ⟨?_, hread, ?_⟩
  · obtain ⟨messages, hrun⟩ := run_idle_eq hprepare hfile hidle hbytes htext
    rw [hrun, outcomeOf_save_succeeds]
  · rw [hread, ← encodeUtf8_universal_iff htext]
    exact ⟨fun h => Except.ok.inj h, fun h => congrArg Except.ok h⟩

end

/-! ## A blank insertion -/

/-- An empty snippet is inserted in place into a file with some contents. -/
def blankInsertion (bytes : List UInt8) : Invocation :=
  ⟨["insert", "a.kv", "-l", "0", "-s", "", "-i"], fun _ => none,
    ⟨["w"], [(["w", "a.kv"], bytes)], []⟩, "bundled"⟩

/-- The file of the insertion. -/
def blankFile : File.Path := ⟨"", ["a.kv"]⟩

section
variable (bytes : List UInt8)

theorem blankInsertion_prepare :
    (blankInsertion bytes).prepare =
      .ok (⟨Catalog.bundled, settingsOf (fun _ => none) [], none⟩,
        .insert blankFile 0 0 (.snippet "") true) := by
  have hrequest : requestOf (blankInsertion bytes).tree .insert
      ["a.kv", "-l", "0", "-s", "", "-i"] =
        .ok (.insert blankFile 0 0 (.snippet "") true) := by cbv
  exact prepare_of_command rfl rfl rfl hrequest

theorem blankInsertion_read :
    (blankInsertion bytes).tree.read blankFile.text = .ok bytes := by
  cbv

theorem blankInsertion_idle (service : Service) :
    Idle service (blankInsertion bytes).tree (.insert blankFile 0 0 (.snippet "") true) :=
  .insert rfl (by decide)

end

/-- A file with line feeds is left alone. -/
theorem idle_run_keeps_lineFeed :
    (blankInsertion [65, 58, 10]).prepare =
        .ok (⟨Catalog.bundled, settingsOf (fun _ => none) [], none⟩,
          .insert blankFile 0 0 (.snippet "") true) ∧
      decodeUtf8? [65, 58, 10] = some "A:\n" ∧
      (run (blankInsertion [65, 58, 10])).tree.read blankFile.text = .ok [65, 58, 10] :=
  ⟨blankInsertion_prepare _, rfl,
    (idle_run_keeps_iff (blankInsertion_prepare _) rfl (blankInsertion_idle _ _)
      (blankInsertion_read _) rfl).2.2.mpr (by decide)⟩

/-- A file with a carriage return before its line feed loses it, although nothing was edited. -/
theorem blankInsertion_loses_return :
    ∃ service request file, (blankInsertion [65, 58, 13, 10]).prepare = .ok (service, request) ∧
      request.savesTo? = some file ∧
      Idle service (blankInsertion [65, 58, 13, 10]).tree request ∧
      (blankInsertion [65, 58, 13, 10]).tree.read file.text = .ok [65, 58, 13, 10] ∧
      decodeUtf8? [65, 58, 13, 10] = some "A:\r\n" ∧
      (run (blankInsertion [65, 58, 13, 10])).tree.read file.text = .ok [65, 58, 10] ∧
      (run (blankInsertion [65, 58, 13, 10])).tree.read file.text ≠ .ok [65, 58, 13, 10] := by
  have htext : decodeUtf8? [65, 58, 13, 10] = some "A:\r\n" := rfl
  have hread := run_idle_read (blankInsertion_prepare _) rfl (blankInsertion_idle _ _)
    (blankInsertion_read [65, 58, 13, 10]) htext
  have hbytes : encodeUtf8 (universal "A:\r\n") = [65, 58, 10] := by cbv
  rw [hbytes] at hread
  refine ⟨_, _, blankFile, blankInsertion_prepare _, rfl, blankInsertion_idle _ _,
    blankInsertion_read _, htext, hread, ?_⟩
  rw [hread]
  intro h
  cases h

end KvMarkup.Command
