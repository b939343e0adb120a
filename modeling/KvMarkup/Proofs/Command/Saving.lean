import Mathlib
import KvMarkup.Proofs.Command.Prepare
import KvMarkup.Proofs.Edit.Insertion
import KvMarkup.Proofs.File.Tree

/-!
# What a run saves

A run that succeeds writes at most one file: that of an insertion or a move that is to be saved in
place.  What it writes there is what the same command line prints without `--in-place`:

    (run i).tree.bytesAt? place = i.tree.bytesAt? place             unless i.SavesAt place
    (run i).tree.bytesAt? place = some (encodeUtf8 text),
      (run i.printing).output = echoed text                         where i.SavesAt place

A run that fails leaves every file as it was, but for one case.  A file is emptied before the result
is written to it, and a result that is no text cannot be written:

    (run i).tree.bytesAt? place = some []                           where i.SpoilsAt place

Only the words of the command line can hold such a result, in a snippet (`run_touches_only_saved`);
what such a snippet holds gets into the result wherever it is put (`mem_insert_of_no_text`).
-/

namespace KvMarkup.Command

open KvMarkup.Text

/-- The run came to its end with exit code zero. -/
def Outcome.succeeds (o : Outcome) : Bool := o.exitCode == 0 && o.breakdown.isNone

/-- The place of the file that a run is to save its result in. -/
def Invocation.SavesAt (i : Invocation) (place : List String) : Prop :=
  ∃ service request file, i.prepare = .ok (service, request) ∧ request.savesTo? = some file ∧
    i.tree.locate file.text = .ok place

/-- The request saves the result of inserting a snippet that is no text into a file that is one. -/
inductive Spoils (tree : File.Tree) : Request → File.Path → Prop
  | insert {file : File.Path} {line column : Int} {snippet : RawText} {source : String}
      (hsnippet : snippet.text? = none) (hsource : readText tree file = .ok source) :
      Spoils tree (.insert file line column (.snippet snippet) true) file

/-- The place of the file that a run is to save such a result in. -/
def Invocation.SpoilsAt (i : Invocation) (place : List String) : Prop :=
  ∃ service request file, i.prepare = .ok (service, request) ∧ Spoils i.tree request file ∧
    i.tree.locate file.text = .ok place

section
variable {i : Invocation} {service : Service} {request : Request} {place : List String}

theorem savesAt_iff (h : i.prepare = .ok (service, request)) :
    i.SavesAt place ↔
      ∃ file, request.savesTo? = some file ∧ i.tree.locate file.text = .ok place := by
  constructor
  · rintro ⟨service', request', file, hprepare, hplace⟩
    obtain ⟨rfl, rfl⟩ := Prod.mk.inj (Except.ok.inj (h.symm.trans hprepare))
    exact ⟨file, hplace⟩
  · rintro ⟨file, hplace⟩
    exact ⟨service, request, file, h, hplace⟩

/-- A command line that makes no request saves nothing. -/
theorem not_savesAt_of_error {s : Stop} (h : i.prepare = .error s) : ¬i.SavesAt place := by
  rintro ⟨service, request, file, hprepare, -⟩
  rw [h] at hprepare
  cases hprepare

end

/-! ## Terminal text -/

theorem withoutControls_of_not_mem {text : RawText} (h : .char '\x1b' ∉ text) :
    ∀ fuel, withoutControls fuel text = text := by
  induction text with
  | nil =>
    intro fuel
    cases fuel <;> rfl
  | cons c text ih =>
    intro fuel
    cases fuel with
    | zero => rfl
    | succ fuel =>
      have hc : c ≠ .char '\x1b' := fun hc => h (hc ▸ List.mem_cons_self)
      have htext : .char '\x1b' ∉ text := fun htext => h (List.mem_cons_of_mem c htext)
      rw [withoutControls, if_neg (by simpa using hc), ih htext fuel]

/-- A text without escape characters is printed as it is. -/
theorem echoed_of_not_mem {text : String} (h : '\x1b' ∉ text.toList) : echoed text = text := by
  rw [echoed, withoutControls_of_not_mem (by simpa [RawText.ofText] using h), RawText.shown_ofText]

/-! ## What commands come to -/

/-- The attempt succeeds and saves a text in the file that it was read from. -/
structure Saves (service : Service) (tree : File.Tree) (request : Request) (file : File.Path)
    (text : String) : Prop where
  asked : request.savesTo? = some file
  readable : ∃ bytes, tree.read file.text = .ok bytes
  /-- The request that prints gives the text itself. -/
  printed : (perform service tree request.printing).value = .ok (.print (echoed text))

/-- Only the words of a command line can have a snippet that is no text. -/
theorem eq_snippet_of_no_text {what : Insertion} {snippet : RawText}
    (h : snippetFor what = .ok snippet) (hnone : snippet.text? = none) :
    what = .snippet snippet := by
  unfold snippetFor at h
  split at h
  · cases h
    rfl
  · split at h <;> cases h
    simp at hnone

theorem read_of_readText {tree : File.Tree} {file : File.Path} {text : String}
    (h : readText tree file = .ok text) : ∃ bytes, tree.read file.text = .ok bytes := by
  unfold readText at h
  split at h
  · cases h
  · next bytes hbytes => exact ⟨bytes, hbytes⟩

theorem readText_eq_ok {tree : File.Tree} {file : File.Path} {bytes : List UInt8} {text : String}
    (hbytes : tree.read file.text = .ok bytes) (htext : decodeUtf8? bytes = some text) :
    readText tree file = .ok (universal text) := by
  unfold readText
  rw [hbytes]
  simp only [htext]

section
variable {service : Service} {tree : File.Tree}

theorem outline_prints {ast : File.Path} {asJson : Bool} {action : Action}
    (h : outline service tree ast asJson = .ok action) : ∃ out, action = .print out := by
  unfold outline at h
  obtain ⟨symbols, -, h⟩ := bind_eq_ok_iff.mp h
  split at h
  · cases h
    exact ⟨_, rfl⟩
  · split at h <;> cases h
    exact ⟨_, rfl⟩

theorem complete_prints {file : File.Path} {line character : Int} {action : Action}
    (h : (complete service tree file line character).value = .ok action) :
    ∃ out, action = .print out := by
  unfold complete at h
  split at h
  · cases h
  · simp only at h
    split at h <;> cases h
    exact ⟨_, rfl⟩

theorem image_prints {file : File.Path} {line : Int} {workspace : Option File.Path}
    {action : Action} (h : (image tree file line workspace).value = .ok action) :
    ∃ out, action = .print out := by
  unfold image at h
  split at h
  · cases h
  · simp only at h
    split at h <;> cases h
    exact ⟨_, rfl⟩

theorem palette_prints {category : Option RawText} {action : Action}
    (h : palette category = .ok action) : ∃ out, action = .print out := by
  unfold palette at h
  split at h <;> cases h
  exact ⟨_, rfl⟩

/-- The stand-in for a byte that is part of no character gets into the result of an insertion, so
the result is as little a text as the snippet. -/
theorem mem_insert_of_no_text {snippet : RawText} (h : snippet.text? = none) (source : String)
    (line column width : Int) :
    '\uFFFD' ∈ (Edit.insert source snippet.standIn line column width).text.toList :=
  Edit.mem_insert (RawText.mem_standIn_of_no_text h) (by decide) (by decide) source line column
    width

/-- An insertion delivers a text of the file, the same one in place and printed; or the snippet is
no text, and the result has no bytes to save. -/
theorem insert_delivers {file : File.Path} {line column : Int} {what : Insertion} {inPlace : Bool}
    {action : Action}
    (h : (insert service tree file line column what inPlace).value = .ok action) :
    (∃ text, (∃ bytes, tree.read file.text = .ok bytes) ∧ action = deliver file inPlace text ∧
      (insert service tree file line column what false).value =
        .ok (deliver file false text)) ∨
    inPlace = true ∧ action = .spoil file ∧
      Spoils tree (.insert file line column what true) file := by
  unfold insert at h ⊢
  cases hsnippet : snippetFor what with
  | error s => simp [hsnippet] at h
  | ok snippet =>
    cases hread : readText tree file with
    | error s => simp [hsnippet, hread] at h
    | ok source =>
      simp only [hsnippet, hread] at h ⊢
      split at h
      · next text _ =>
        split at h
        · cases h
          exact .inl ⟨text, read_of_readText hread, rfl, rfl⟩
        · next hnoText =>
          cases inPlace with
          | false => cases h
          | true =>
            cases h
            obtain rfl := eq_snippet_of_no_text hsnippet hnoText
            exact .inr ⟨rfl, rfl, .insert hnoText hread⟩
      · cases h

/-- A move delivers a text of the file, the same one in place and printed. -/
theorem move_delivers {file ast : File.Path} {source : RawText} {target : Option RawText}
    {inPlace : Bool} {action : Action}
    (h : (move service tree file ast source target inPlace).value = .ok action) :
    ∃ text, (∃ bytes, tree.read file.text = .ok bytes) ∧ action = deliver file inPlace text ∧
      (move service tree file ast source target false).value = .ok (deliver file false text) := by
  unfold move at h ⊢
  cases hnodes : moveNodes service tree ast source target with
  | error s => simp [hnodes] at h
  | ok nodes =>
    cases hread : readText tree file with
    | error s => simp [hnodes, hread] at h
    | ok document =>
      simp only [hnodes, hread] at h ⊢
      split at h
      · next edited _ =>
        cases h
        exact ⟨edited.text, read_of_readText hread, rfl, rfl⟩
      · cases h

/-- **What a request comes to.**  It prints, or saves what it would print, or spoils a file. -/
theorem perform_cases {request : Request} {action : Action}
    (h : (perform service tree request).value = .ok action) :
    (∃ out, action = .print out ∧ request.savesTo? = none) ∨
      (∃ file text, action = .save file text ∧ Saves service tree request file text) ∨
      ∃ file, action = .spoil file ∧ Spoils tree request file := by
  cases request with
  | outline ast asJson =>
    obtain ⟨out, hout⟩ := outline_prints h
    exact .inl ⟨out, hout, rfl⟩
  | complete file line character =>
    obtain ⟨out, hout⟩ := complete_prints h
    exact .inl ⟨out, hout, rfl⟩
  | image file line workspace =>
    obtain ⟨out, hout⟩ := image_prints h
    exact .inl ⟨out, hout, rfl⟩
  | palette category =>
    obtain ⟨out, hout⟩ := palette_prints h
    exact .inl ⟨out, hout, rfl⟩
  | insert file line column what inPlace =>
    obtain ⟨text, hreadable, haction, hprinted⟩ | ⟨rfl, haction, hspoils⟩ := insert_delivers h
    · cases inPlace with
      | false => exact .inl ⟨echoed text, haction, rfl⟩
      | true => exact .inr (.inl ⟨file, text, haction, ⟨rfl, hreadable, hprinted⟩⟩)
    · exact .inr (.inr ⟨file, haction, hspoils⟩)
  | move file ast source target inPlace =>
    obtain ⟨text, hreadable, haction, hprinted⟩ := move_delivers h
    cases inPlace with
    | false => exact .inl ⟨echoed text, haction, rfl⟩
    | true => exact .inr (.inl ⟨file, text, haction, ⟨rfl, hreadable, hprinted⟩⟩)

end

/-! ## What stops them -/

/-- A stop with a message of a failure, or without one. -/
def Stop.fails : Stop → Bool
  | .failed _ => true
  | .broken _ => true
  | _ => false

section
variable {service : Service} {tree : File.Tree} {s : Stop}

theorem readText_fails {file : File.Path} (h : readText tree file = .error s) :
    s.fails = true := by
  unfold readText at h
  split at h
  · cases h
    rfl
  · split at h <;> cases h
    rfl

theorem readOutline_fails {file : File.Path} (h : readOutline service tree file = .error s) :
    s.fails = true := by
  obtain h | ⟨m, -, h⟩ := bind_eq_error h
  · obtain h | ⟨text, -, h⟩ := bind_eq_error h
    · exact readText_fails h
    · split at h
      · split at h <;> cases h <;> rfl
      · split at h <;> cases h
        rfl
  · cases hsymbols : service.outlineOf m with
    | error f =>
      rw [hsymbols] at h
      cases h
      rfl
    | ok symbols =>
      rw [hsymbols] at h
      cases h

theorem nodeAtRaw_fails {symbols : List Outline.UncheckedNode} {path : RawText}
    (h : nodeAtRaw symbols path = .error s) : s.fails = true := by
  unfold nodeAtRaw nodeAt at h
  split at h
  · split at h <;> cases h
    rfl
  · cases h
    rfl

theorem moveNodes_fails {ast : File.Path} {source : RawText} {target : Option RawText}
    (h : moveNodes service tree ast source target = .error s) : s.fails = true := by
  obtain h | ⟨symbols, -, h⟩ := bind_eq_error h
  · exact readOutline_fails h
  · obtain h | ⟨item, -, h⟩ := bind_eq_error h
    · exact nodeAtRaw_fails h
    · cases target with
      | none => cases h
      | some path =>
        obtain h | ⟨n, -, h⟩ := bind_eq_error h
        · exact nodeAtRaw_fails h
        · cases h

theorem snippetFor_fails {what : Insertion} (h : snippetFor what = .error s) :
    s.fails = true := by
  unfold snippetFor at h
  split at h
  · cases h
  · split at h <;> cases h
    rfl

theorem insert_fails {file : File.Path} {line column : Int} {what : Insertion} {inPlace : Bool}
    (h : (insert service tree file line column what inPlace).value = .error s) :
    s.fails = true := by
  unfold insert at h
  split at h
  · next hsnippet =>
    cases h
    exact snippetFor_fails hsnippet
  · next hread _ =>
    cases h
    exact readText_fails hread
  · simp only at h
    split at h
    · split at h
      · cases h
      · unfold deliverRaw at h
        split at h <;> cases h
        rfl
    · cases h
      rfl

theorem move_fails {file ast : File.Path} {source : RawText} {target : Option RawText}
    {inPlace : Bool} (h : (move service tree file ast source target inPlace).value = .error s) :
    s.fails = true := by
  unfold move at h
  split at h
  · next hnodes =>
    cases h
    exact moveNodes_fails hnodes
  · next hread _ =>
    cases h
    exact readText_fails hread
  · split at h <;> cases h
    rfl

/-- A request that is to save its result is stopped by failures only. -/
theorem perform_fails {request : Request} {file : File.Path}
    (hsaves : request.savesTo? = some file) (h : (perform service tree request).value = .error s) :
    s.fails = true := by
  cases request with
  | outline => cases hsaves
  | complete => cases hsaves
  | image => cases hsaves
  | palette => cases hsaves
  | insert => exact insert_fails h
  | move => exact move_fails h

end

/-! ## Runs -/

/-- The outcome of a run is that of what its request comes to. -/
theorem run_outcome (i : Invocation) :
    ∃ messages, run i = outcomeOf i.tree messages
      (i.prepare.bind fun p => (perform p.1 i.tree p.2).value) := by
  refine ⟨noteLines (attempt i).2 (attempt i).1.notes, ?_⟩
  rw [← attempt_value]
  rfl

section
variable (tree : File.Tree) (messages : String)

/-- What stops a run leaves the tree alone. -/
theorem outcomeOf_error_tree (s : Stop) : (outcomeOf tree messages (.error s)).tree = tree := by
  cases s <;> rfl

@[simp] theorem outcomeOf_save_tree (file : File.Path) (text : String) :
    (outcomeOf tree messages (.ok (.save file text))).tree =
      tree.write file.text (encodeUtf8 text) := rfl

@[simp] theorem outcomeOf_save_succeeds (file : File.Path) (text : String) :
    (outcomeOf tree messages (.ok (.save file text))).succeeds = true := rfl

end

theorem outcomeOf_fails {tree : File.Tree} {messages : String} {s : Stop} (h : s.fails = true) :
    (outcomeOf tree messages (.error s)).succeeds = false := by
  cases s with
  | failed message => rfl
  | broken b => rfl
  | help v => cases h
  | noWords => cases h
  | usage v e => cases h

/-- A run that prints shows what its request comes to. -/
theorem run_print {i : Invocation} {service : Service} {request : Request} {out : String}
    (h : i.prepare = .ok (service, request))
    (hprint : (perform service i.tree request).value = .ok (.print out)) :
    (run i).succeeds = true ∧ (run i).output = out := by
  obtain ⟨messages, hrun⟩ := run_outcome i
  rw [hrun, h, Except.bind, hprint]
  exact ⟨rfl, rfl⟩

/-- **What a run comes to.**  It leaves the tree as it is, and if it is to save its result it fails;
or it saves it; or it empties the file of a result that has no bytes, and fails. -/
theorem run_cases (i : Invocation) :
    ((run i).tree = i.tree ∧ ((run i).succeeds = true → ∀ place, ¬i.SavesAt place)) ∨
      (∃ service request file text, i.prepare = .ok (service, request) ∧
        Saves service i.tree request file text ∧ (run i).succeeds = true ∧
        (run i).tree = i.tree.write file.text (encodeUtf8 text)) ∨
      ∃ service request file, i.prepare = .ok (service, request) ∧ Spoils i.tree request file ∧
        (run i).succeeds = false ∧ (run i).tree = i.tree.write file.text [] := by
  obtain ⟨messages, hrun⟩ := run_outcome i
  cases hprepare : i.prepare with
  | error s =>
    rw [hrun, hprepare]
    exact .inl ⟨outcomeOf_error_tree _ _ s, fun _ _ => not_savesAt_of_error hprepare⟩
  | ok prepared =>
    obtain ⟨service, request⟩ := prepared
    rw [hprepare, Except.bind] at hrun
    rw [hrun]
    cases hvalue : (perform service i.tree request).value with
    | error s =>
      refine .inl ⟨outcomeOf_error_tree _ _ s, ?_⟩
      intro hsucceeds place hplace
      obtain ⟨file, hsaves, -⟩ := (savesAt_iff hprepare).mp hplace
      rw [outcomeOf_fails (perform_fails hsaves hvalue)] at hsucceeds
      cases hsucceeds
    | ok action =>
      obtain ⟨out, rfl, hnone⟩ | ⟨file, text, rfl, hsaves⟩ | ⟨file, rfl, hspoils⟩ :=
        perform_cases hvalue
      · refine .inl ⟨rfl, ?_⟩
        intro _ place hplace
        obtain ⟨file, hsaves, -⟩ := (savesAt_iff hprepare).mp hplace
        rw [hnone] at hsaves
        cases hsaves
      · exact .inr (.inl ⟨service, request, file, text, rfl, hsaves, rfl, rfl⟩)
      · exact .inr (.inr ⟨service, request, file, rfl, hspoils, rfl, rfl⟩)

/-- A run that is to save a result without bytes empties the file, and fails. -/
theorem run_spoils {i : Invocation} {place : List String} (h : i.SpoilsAt place) :
    (run i).succeeds = false ∧ (run i).tree.bytesAt? place = some [] := by
  obtain ⟨service, _, file, hprepare, @⟨_, line, column, snippet, source, hsnippet, hsource⟩,
    hlocated⟩ := h
  have hvalue : (perform service i.tree (.insert file line column (.snippet snippet) true)).value =
      .ok (.spoil file) := by
    simp only [perform, insert, snippetFor, hsource, Service.addWidget, Service.finiteNumber?,
      hsnippet]
    rfl
  obtain ⟨messages, hrun⟩ := run_outcome i
  obtain ⟨bytes, hbytes⟩ := read_of_readText hsource
  rw [hrun, hprepare, Except.bind, hvalue]
  exact ⟨rfl, File.Tree.bytesAt?_write hbytes hlocated []⟩

/-- Unless it empties the file of a result without bytes, a run that fails changes no file. -/
theorem run_fails_keeps {i : Invocation} (h : (run i).succeeds = false) {place : List String}
    (hplace : ¬i.SpoilsAt place) : (run i).tree.bytesAt? place = i.tree.bytesAt? place := by
  obtain ⟨htree, -⟩ | ⟨_, _, _, _, -, -, hsucceeds, -⟩ |
    ⟨service, request, file, hprepare, hspoils, -, htree⟩ := run_cases i
  · rw [htree]
  · rw [h] at hsucceeds
    cases hsucceeds
  · rw [htree]
    apply File.Tree.bytesAt?_write_of_ne
    intro hlocated
    exact hplace ⟨service, request, file, hprepare, hspoils, hlocated⟩

/-- A run that succeeds saves what the same command line prints without `--in-place`. -/
theorem run_succeeds_saves {i : Invocation} (h : (run i).succeeds = true) :
    (∀ place, ¬i.SavesAt place → (run i).tree.bytesAt? place = i.tree.bytesAt? place) ∧
      ∀ place, i.SavesAt place → ∃ text,
        (run i).tree.bytesAt? place = some (encodeUtf8 text) ∧
          (run i.printing).succeeds = true ∧ (run i.printing).output = echoed text ∧
          ('\x1b' ∉ text.toList → (run i.printing).output = text) := by
  obtain ⟨htree, hnowhere⟩ | ⟨service, request, file, text, hprepare, hsaves, -, htree⟩ |
    ⟨_, _, _, -, -, hfails, -⟩ := run_cases i
  · exact ⟨fun place _ => by rw [htree], fun place hplace => absurd hplace (hnowhere h place)⟩
  · obtain ⟨bytes, hbytes⟩ := hsaves.readable
    rw [htree]
    refine ⟨?_, ?_⟩
    · intro place hplace
      apply File.Tree.bytesAt?_write_of_ne
      intro hlocated
      exact hplace ((savesAt_iff hprepare).mpr ⟨file, hsaves.asked, hlocated⟩)
    · intro place hplace
      obtain ⟨saved, hasked, hlocated⟩ := (savesAt_iff hprepare).mp hplace
      obtain rfl := Option.some.inj (hsaves.asked.symm.trans hasked)
      obtain ⟨hprints, houtput⟩ := run_print (prepare_printing hprepare)
        (by rw [i.printing_tree]; exact hsaves.printed)
      refine ⟨text, File.Tree.bytesAt?_write hbytes hlocated _, hprints, houtput, ?_⟩
      intro hescape
      rw [houtput, echoed_of_not_mem hescape]
  · rw [h] at hfails
    cases hfails

/-- **A run touches the file that it was asked to rewrite, and no other.**  If it fails, no file is
changed, unless it was to save the result of inserting a snippet that is no text: then the file is
emptied.  If it succeeds, only the file that it saves in may be changed, and that one then holds the
text that the same command line prints without `--in-place`; printing leaves out control sequences,
and nothing else. -/
theorem run_touches_only_saved (i : Invocation) :
    (((run i).succeeds = false →
        ∀ place, (run i).tree.bytesAt? place = i.tree.bytesAt? place) ↔
      ∀ place, i.SpoilsAt place → i.tree.bytesAt? place = some []) ∧
    (∀ place, i.SpoilsAt place →
      (run i).succeeds = false ∧ (run i).tree.bytesAt? place = some []) ∧
    ((run i).succeeds = false →
      ∀ place, ¬i.SpoilsAt place → (run i).tree.bytesAt? place = i.tree.bytesAt? place) ∧
    ((run i).succeeds = true →
      (∀ place, ¬i.SavesAt place → (run i).tree.bytesAt? place = i.tree.bytesAt? place) ∧
      ∀ place, i.SavesAt place → ∃ text,
        (run i).tree.bytesAt? place = some (encodeUtf8 text) ∧
          (run i.printing).succeeds = true ∧ (run i.printing).output = echoed text ∧
          ('\x1b' ∉ text.toList → (run i.printing).output = text)) ∧
    ∀ service request, i.prepare = .ok (service, request) →
      i.printing.prepare = .ok (service, request.printing) := by
  refine ⟨⟨?_, ?_⟩, fun place => run_spoils, fun h place => run_fails_keeps h, run_succeeds_saves,
    fun _ _ => prepare_printing⟩
  · intro hkeeps place hplace
    obtain ⟨hfails, hempty⟩ := run_spoils hplace
    rw [← hkeeps hfails place, hempty]
  · intro hempty hfails place
    by_cases hplace : i.SpoilsAt place
    · rw [(run_spoils hplace).2, hempty place hplace]
    · exact run_fails_keeps hfails hplace

/-! ## A snippet that is no text -/

/-- The snippet consists of the byte FF and a colon, and goes into a file with some contents. -/
def rawInsertion (bytes : List UInt8) : Invocation :=
  ⟨["insert", "a.kv", "-l", "0", "-s", [.stray 127, .char ':'], "-i"], fun _ => none,
    ⟨["w"], [(["w", "a.kv"], bytes)], []⟩, "bundled"⟩

/-- The run fails, and its file is empty afterwards. -/
theorem rawInsertion_empties :
    (run (rawInsertion [65, 58, 10])).succeeds = false ∧
      (rawInsertion [65, 58, 10]).tree.bytesAt? ["w", "a.kv"] = some [65, 58, 10] ∧
      (run (rawInsertion [65, 58, 10])).tree.bytesAt? ["w", "a.kv"] = some [] := by
  have hrequest : requestOf (rawInsertion [65, 58, 10]).tree .insert
      ["a.kv", "-l", "0", "-s", [.stray 127, .char ':'], "-i"] =
        .ok (.insert ⟨"", ["a.kv"]⟩ 0 0 (.snippet [.stray 127, .char ':']) true) := by cbv
  have hread : readText (rawInsertion [65, 58, 10]).tree ⟨"", ["a.kv"]⟩ = .ok "A:\n" := by cbv
  have hspoils : (rawInsertion [65, 58, 10]).SpoilsAt ["w", "a.kv"] :=
    ⟨_, _, _, prepare_of_command rfl rfl rfl hrequest, .insert rfl hread, by cbv⟩
  exact ⟨(run_spoils hspoils).1, by cbv, (run_spoils hspoils).2⟩

end KvMarkup.Command
