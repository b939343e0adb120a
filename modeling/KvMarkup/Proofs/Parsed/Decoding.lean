import KvMarkup.Proofs.Parsed.Schema

/-!
# Decoding stops at the first fault

A decoder goes through a value in the order in which `faults` lists what does not fit, and stops at
the first thing it meets; when it meets nothing, the part that it returns represents the value.
`Reads` states both at once, so that the steps of a decoder and of its specification are put
together alike (`Reads.bind`, `Reads.mapM`).

    Module.decode d = .error f   ↔   (faults .document d).head? = some f
    Module.decode d = .ok m      ↔   faults .document d = [] ∧ Represented d m      (decode_faithful)
-/

namespace KvMarkup.Parsed

variable {α β : Type}

/-! ## Results against what is wrong -/

/-- A result that is good if nothing is wrong, and otherwise the first thing that is. -/
def Reads (x : Except Fault α) (wrong : List Fault) (good : α → Prop) : Prop :=
  match x with
  | .ok a => wrong = [] ∧ good a
  | .error f => wrong.head? = some f

section
variable {x : Except Fault α} {fs gs : List Fault} {P : α → Prop}

theorem Reads.mono {Q : α → Prop} (h : Reads x fs P) (hPQ : ∀ a, P a → Q a) : Reads x fs Q := by
  cases x with
  | ok a => exact ⟨h.1, hPQ a h.2⟩
  | error f => exact h

theorem Reads.eq_error_iff (h : Reads x fs P) {f : Fault} :
    x = .error f ↔ fs.head? = some f := by
  cases x with
  | ok a => simp [h.1]
  | error e =>
    have he : fs.head? = some e := h
    rw [he, Except.error.injEq, Option.some.injEq]

theorem Reads.exists_ok (h : Reads x [] P) : ∃ a, x = .ok a ∧ P a := by
  cases x with
  | ok a => exact ⟨a, rfl, h.2⟩
  | error f => nomatch h

theorem Reads.bind {g : α → Except Fault β} {Q : β → Prop} (h : Reads x fs P)
    (hg : ∀ a, P a → Reads (g a) gs Q) : Reads (x >>= g) (fs ++ gs) Q := by
  cases x with
  | ok a =>
    obtain ⟨rfl, ha⟩ := h
    exact hg a ha
  | error f =>
    have hf : fs.head? = some f := h
    show (fs ++ gs).head? = some f
    rw [List.head?_append, hf, Option.some_or]

theorem Reads.map {g : α → β} {Q : β → Prop} (h : Reads x fs P) (hg : ∀ a, P a → Q (g a)) :
    Reads (x.map g) fs Q := by
  cases x with
  | ok a => exact ⟨h.1, hg a h.2⟩
  | error f => exact h

/-- Items are read one after another. -/
theorem Reads.mapM {decode : Data → Except Fault α} {wrong : Data → List Fault}
    {good : Data → α → Prop} :
    ∀ {ds : List Data}, (∀ d ∈ ds, Reads (decode d) (wrong d) (good d)) →
      Reads (ds.mapM decode) (ds.flatMap wrong) (List.Forall₂ good ds)
  | [], _ => ⟨rfl, .nil⟩
  | d :: ds, h => by
    rw [List.mapM_cons, List.flatMap_cons]
    refine (h d List.mem_cons_self).bind fun a ha => ?_
    rw [← List.append_nil (ds.flatMap wrong)]
    exact (Reads.mapM fun e he => h e (List.mem_cons_of_mem _ he)).bind fun as has =>
      ⟨rfl, .cons ha has⟩

end

/-! ## The steps of a decoder -/

theorem reads_required (entries : List (Data × Data)) (key : String) :
    Reads (required entries key) (missing entries key)
      fun d => Data.field? entries key = some d := by
  rw [required, missing]
  cases h : Data.field? entries key with
  | none => rfl
  | some d => exact ⟨rfl, rfl⟩

/-- A value that has to be an object. -/
theorem reads_object {role : Role} {d : Data} (hrole : role.misfit d = .notIndexed d)
    {g : List (Data × Data) → Except Fault α} {good : α → Prop}
    (h : ∀ entries, d = .map entries → Reads (g entries) (faults role d) good) :
    Reads (entriesOf d >>= g) (faults role d) good := by
  cases d with
  | map entries => exact h entries rfl
  | _ =>
    rw [faults_of_not_map role (by simp), hrole]
    rfl

/-- An object with a name under some key and a line. -/
theorem reads_named {role : Role} {key : String} {d : Data}
    (hrole : role.misfit d = .notIndexed d) (hkeys : role.required = [key, "line"])
    {g : List (Data × Data) → Data → Data → Except Fault α} {good : α → Prop}
    (h : ∀ entries name line, d = .map entries → Data.field? entries key = some name →
      Data.field? entries "line" = some line →
        Reads (g entries name line) (role.slots.flatMap fun s => s.faults entries) good) :
    Reads
      (do
        let entries ← entriesOf d
        let name ← required entries key
        let line ← required entries "line"
        g entries name line)
      (faults role d) good := by
  apply reads_object hrole
  intro entries hd
  rw [hd, faults_map, hkeys]
  simp only [List.flatMap_cons, List.flatMap_nil, List.append_assoc, List.nil_append]
  exact (reads_required entries key).bind fun name hname =>
    (reads_required entries "line").bind fun line hline => h entries name line hd hname hline

theorem reads_noParts (d : Data) :
    Reads (noParts d : Except Fault (List α)) (misplaced d) (· = []) := by
  cases d with
  | list items => exact ⟨rfl, rfl⟩
  | str s =>
    rw [noParts, misplaced]
    cases s.toList with
    | nil => exact ⟨rfl, rfl⟩
    | cons c cs => rfl
  | map entries =>
    cases entries with
    | nil => exact ⟨rfl, rfl⟩
    | cons e rest => rfl
  | _ => rfl

/-- The parts in a slot represent what the slot holds. -/
def Fills (s : Slot) (entries : List (Data × Data)) (ps : List (Part Data Data)) : Prop :=
  List.Forall₂ (Represents s.role) (s.parts entries) ps

theorem Fills.items {s : Slot} {entries : List (Data × Data)} {ps : List (Part Data Data)}
    (h : Fills s entries ps) :
    List.Forall₂ (fun x q => Represents x.1 x.2 q) ((s.parts entries).map (s.role, ·)) ps :=
  List.forall₂_map_left_iff.mpr h

theorem reads_collection {decode : Data → Except Fault α} {wrap : α → Part Data Data}
    {key : String} {role : Role} {entries : List (Data × Data)}
    (h : ∀ d ∈ Slot.parts ⟨key, .many, role⟩ entries,
      Reads (decode d) (faults role d) fun a => Represents role d (wrap a)) :
    Reads (collection decode (Data.field? entries key)) (Slot.faults ⟨key, .many, role⟩ entries)
      fun as => Fills ⟨key, .many, role⟩ entries (as.map wrap) := by
  simp only [Slot.faults, Fills, Slot.own, Slot.parts] at h ⊢
  cases hfield : Data.field? entries key with
  | none => exact ⟨rfl, .nil⟩
  | some d =>
    rw [hfield] at h
    cases d with
    | list items =>
      exact (Reads.mapM h).mono fun as has => List.forall₂_map_right_iff.mpr has
    | _ =>
      simp only [collection, Nesting.parts, Nesting.faults, List.flatMap_nil, List.append_nil]
      refine (reads_noParts _).mono fun as has => ?_
      rw [has]
      exact .nil

/-! ## The decoders -/

theorem reads_property (d : Data) :
    Reads (Property.decode d) (faults .property d)
      fun p => Represents .property d (.property p) := by
  apply reads_named rfl rfl
  rintro entries name line rfl hname hline
  exact ⟨rfl, .intro (.property hname hline rfl) .nil⟩

theorem reads_handler (d : Data) :
    Reads (Handler.decode d) (faults .handler d)
      fun h => Represents .handler d (.handler h) := by
  apply reads_named rfl rfl
  rintro entries name line rfl hname hline
  exact ⟨rfl, .intro (.handler hname hline) .nil⟩

theorem reads_instruction (d : Data) :
    Reads (Instruction.decode d) (faults .instruction d)
      fun i => Represents .instruction d (.instruction i) := by
  apply reads_named rfl rfl
  rintro entries name line rfl hname hline
  simp only [Role.slots, List.flatMap_cons, List.flatMap_nil]
  refine (reads_collection fun d _ => reads_property d).bind fun ps hps =>
    ⟨rfl, .intro (.instruction hname hline) ?_⟩
  simpa only [Role.items, Role.slots, List.flatMap_cons, List.flatMap_nil, List.append_nil,
    Part.owned] using hps.items

theorem reads_canvas (label : String) (d : Data) :
    Reads (Canvas.decode d) (faults (.canvas label) d)
      fun c => Represents (.canvas label) d (.canvas label c) := by
  apply reads_object rfl
  rintro entries rfl
  rw [faults_map]
  simp only [Role.required, Role.slots, List.flatMap_cons, List.flatMap_nil, List.append_assoc,
    List.nil_append]
  refine (reads_required entries "line").bind fun line hline =>
    (reads_collection fun d _ => reads_instruction d).bind fun is his =>
      ⟨rfl, .intro (.canvas hline) ?_⟩
  simpa only [Role.items, Role.slots, List.flatMap_cons, List.flatMap_nil, List.append_nil,
    Part.owned] using his.items

theorem reads_canvas? (label key : String) (entries : List (Data × Data)) :
    Reads (Canvas.decode? entries key) (Slot.faults ⟨key, .orNull, .canvas label⟩ entries)
      fun c => Fills ⟨key, .orNull, .canvas label⟩ entries (c.map (Part.canvas label)).toList := by
  simp only [Slot.faults, Slot.own, Slot.parts, Fills, Canvas.decode?]
  cases Data.field? entries key with
  | none => exact ⟨rfl, .nil⟩
  | some d =>
    cases d with
    | null => exact ⟨rfl, .nil⟩
    | _ =>
      simp only [Nesting.parts, Nesting.faults, List.nil_append, List.flatMap_cons,
        List.flatMap_nil, List.append_nil]
      exact (reads_canvas label _).map fun c hc => List.Forall₂.cons hc .nil

/-- The slots that rules and widgets have in common. -/
theorem reads_owner {entries : List (Data × Data)} {kids : Except Fault (List (Widget Data Data))}
    (hkids : Reads kids (Slot.faults ⟨"children", .many, .widget⟩ entries)
      fun cs => Fills ⟨"children", .many, .widget⟩ entries (cs.map .widget))
    (mk : List (Property Data Data) → List (Handler Data Data) → List (Widget Data Data) →
      Option (Canvas Data Data) → Option (Canvas Data Data) → Option (Canvas Data Data) → α)
    {good : α → Prop}
    (h : ∀ ps hs cs c b a, List.Forall₂ (fun x q => Represents x.1 x.2 q)
      (Role.items .widget entries) (Part.gathered ps hs cs c b a) → good (mk ps hs cs c b a)) :
    Reads
      (do
        let properties ← collection Property.decode (Data.field? entries "properties")
        let handlers ← collection Handler.decode (Data.field? entries "handlers")
        let children ← kids
        let canvas ← Canvas.decode? entries "canvas"
        let canvasBefore ← Canvas.decode? entries "canvasBefore"
        let canvasAfter ← Canvas.decode? entries "canvasAfter"
        .ok (mk properties handlers children canvas canvasBefore canvasAfter))
      (ownerSlots.flatMap fun s => s.faults entries) good := by
  simp only [ownerSlots, List.flatMap_cons, List.flatMap_nil]
  refine (reads_collection fun d _ => reads_property d).bind fun ps hps =>
    (reads_collection fun d _ => reads_handler d).bind fun hs hhs =>
      hkids.bind fun cs hcs =>
        (reads_canvas? "canvas" "canvas" entries).bind fun c hc =>
          (reads_canvas? "canvas.before" "canvasBefore" entries).bind fun b hb =>
            (reads_canvas? "canvas.after" "canvasAfter" entries).bind fun a ha =>
              ⟨rfl, h ps hs cs c b a ?_⟩
  simp only [Role.items, Role.slots, ownerSlots, List.flatMap_cons, List.flatMap_nil,
    Part.gathered, Part.canvases, List.append_assoc, List.append_nil]
  exact List.rel_append hps.items (List.rel_append hhs.items (List.rel_append hcs.items
    (List.rel_append hc.items (List.rel_append hb.items ha.items))))

theorem Widget.decodeAll_eq_mapM (ds : List Data) :
    Widget.decodeAll ds = ds.mapM Widget.decode := by
  induction ds with
  | nil => rw [Widget.decodeAll, List.mapM_nil]; rfl
  | cons d ds ih => rw [Widget.decodeAll, List.mapM_cons, ih]; rfl

theorem Widget.decode_eq (d : Data) :
    Widget.decode d = (do
      let entries ← entriesOf d
      let name ← required entries "name"
      let line ← required entries "line"
      let properties ← collection Property.decode (Data.field? entries "properties")
      let handlers ← collection Handler.decode (Data.field? entries "handlers")
      let children ← collection Widget.decode (Data.field? entries "children")
      let canvas ← Canvas.decode? entries "canvas"
      let canvasBefore ← Canvas.decode? entries "canvasBefore"
      let canvasAfter ← Canvas.decode? entries "canvasAfter"
      .ok ⟨name, line, optionalName entries "id", properties, handlers, children,
        canvas, canvasBefore, canvasAfter⟩) := by
  cases d with
  | map entries =>
    rw [Widget.decode]
    refine bind_congr fun name => bind_congr fun line => bind_congr fun ps => bind_congr fun hs => ?_
    split
    next h => rw [h]; rfl
    next items h => rw [h, Widget.decodeAll_eq_mapM]; rfl
    next v hv h => rw [h]; cases v <;> first | rfl | exact absurd rfl (hv _)
  | _ => rw [Widget.decode]; rfl; simp

/-- A name that may be missing or null. -/
theorem optionalName_eq_some_iff {entries : List (Data × Data)} {key : String} {d : Data} :
    optionalName entries key = some d ↔ Data.field? entries key = some d ∧ d ≠ .null := by
  rw [optionalName]
  split
  next h =>
    rw [h]
    simp only [Option.some.injEq, false_iff, not_and_not_right, reduceCtorEq]
    exact fun h => h.symm
  next h =>
    refine ⟨fun hd => ⟨hd, fun hnull => h (hnull ▸ hd)⟩, fun hd => hd.1⟩

theorem reads_widget (d : Data) :
    Reads (Widget.decode d) (faults .widget d) fun w => Represents .widget d (.widget w) := by
  rw [Widget.decode_eq]
  apply reads_named rfl rfl
  intro entries name line hd hname hline
  have hchildren : ∀ e ∈ Slot.parts ⟨"children", .many, .widget⟩ entries,
      Reads (Widget.decode e) (faults .widget e) fun w => Represents .widget e (.widget w) :=
    fun e _ => reads_widget e
  refine reads_owner (reads_collection hchildren)
    (Widget.mk name line (optionalName entries "id")) fun _ _ _ _ _ _ howned => ?_
  rw [hd]
  exact .intro (.widget hname hline fun _ => optionalName_eq_some_iff) howned
termination_by sizeOf d
decreasing_by
  have := Slot.sizeOf_lt ‹e ∈ _›
  simp only [hd, Data.map.sizeOf_spec]
  omega

theorem reads_rule (d : Data) :
    Reads (Rule.decode d) (faults .rule d) fun r => Represents .rule d (.rule r) := by
  apply reads_named rfl rfl
  rintro entries name line rfl hname hline
  exact reads_owner (reads_collection fun d _ => reads_widget d) (Rule.mk name line)
    fun _ _ _ _ _ _ howned => .intro (.rule hname hline) howned

/-! ## The document -/

/-- Decodes a root that may be missing or nothing. -/
def decodeRoot : Option Data → Except Fault (Option (Widget Data Data))
  | none => .ok none
  | some r => if r.isTruthy then (Widget.decode r).map some else .ok none

theorem Module.decode_map (entries : List (Data × Data)) :
    Module.decode (.map entries) = (do
      let rules ← collection Rule.decode (Data.field? entries "rules")
      let root ← decodeRoot (Data.field? entries "root")
      .ok ⟨rules, root⟩) := by
  rw [Module.decode]
  refine bind_congr fun rules => ?_
  cases Data.field? entries "root" with
  | none => rfl
  | some r =>
    simp only [decodeRoot]
    split <;> rfl

theorem reads_root (entries : List (Data × Data)) :
    Reads (decodeRoot (Data.field? entries "root"))
      (Slot.faults ⟨"root", .orNothing, .widget⟩ entries)
      fun root => Fills ⟨"root", .orNothing, .widget⟩ entries (root.map .widget).toList := by
  simp only [Slot.faults, Slot.own, Slot.parts, Fills]
  cases Data.field? entries "root" with
  | none => exact ⟨rfl, .nil⟩
  | some d =>
    simp only [Nesting.parts, Nesting.faults, decodeRoot, List.nil_append]
    by_cases hd : d.isTruthy
    · simp only [hd, if_true, List.flatMap_cons, List.flatMap_nil, List.append_nil]
      exact (reads_widget d).map fun w hw => List.Forall₂.cons hw .nil
    · simp only [hd]
      exact ⟨rfl, .nil⟩

theorem reads_module (d : Data) :
    Reads (Module.decode d) (faults .document d) (Represented d) := by
  cases d with
  | map entries =>
    rw [faults_map]
    simp only [Role.required, Role.slots, List.flatMap_cons, List.flatMap_nil, List.nil_append]
    rw [Module.decode_map]
    refine (reads_collection fun d _ => reads_rule d).bind fun rules hrules =>
      (reads_root entries).bind fun root hroot => ⟨rfl, entries, rfl, ?_⟩
    simpa only [Role.items, Role.slots, List.flatMap_cons, List.flatMap_nil, List.append_nil,
      Module.parts] using List.rel_append hrules.items hroot.items
  | _ =>
    rw [faults_of_not_map _ (by simp)]
    rfl

theorem decode_eq_ok_iff {d : Data} {m : Module Data Data} :
    Module.decode d = .ok m ↔ faults .document d = [] ∧ Represented d m := by
  have hd := reads_module d
  constructor
  · intro h
    rwa [h] at hd
  · rintro ⟨hnil, hm⟩
    rw [hnil] at hd
    obtain ⟨n, hn, hrepresented⟩ := hd.exists_ok
    rw [hn, hrepresented.unique hm]

/-- A document is decoded for every value.  The result is a fault exactly if something in the value
does not fit, and it is the first such thing then; it is a module exactly if nothing is wrong, and
the one that the value represents then.  Faults are missing keys and wrong types, and a missing
attribute just for a value that is no object.  Nothing is wrong with a value that is shaped. -/
theorem decode_faithful (d : Data) :
    (∀ f, Module.decode d = .error f ↔ (faults .document d).head? = some f) ∧
      (∀ m, Module.decode d = .ok m ↔ faults .document d = [] ∧ Represented d m) ∧
      (∀ f, Module.decode d = .error f → f.kind = .key ∨ f.kind = .type ∨ f.kind = .attribute) ∧
      ((∃ f, Module.decode d = .error f ∧ f.kind = .attribute) ↔ ∀ entries, d ≠ .map entries) ∧
      (Shaped .document d → ∃ m, Module.decode d = .ok m ∧ Represented d m) := by
  have hd := reads_module d
  have kinds : ∀ f, Module.decode d = .error f → f.kind = .key ∨ f.kind = .type ∨
      f.kind = .attribute ∧ ∀ entries, d ≠ .map entries := fun f hf =>
    (kind_of_mem_faults .document d (List.mem_of_head? (hd.eq_error_iff.mp hf))).imp_right
      (Or.imp_right fun h => ⟨h.1, h.2.2⟩)
  refine ⟨fun f => hd.eq_error_iff, fun m => decode_eq_ok_iff, fun f hf => ?_, ?_, fun h => ?_⟩
  · exact (kinds f hf).imp_right (Or.imp_right And.left)
  · constructor
    · rintro ⟨f, hf, hattribute⟩
      obtain h | h | h := kinds f hf
      · rw [h] at hattribute
        cases hattribute
      · rw [h] at hattribute
        cases hattribute
      · exact h.2
    · intro h
      refine ⟨.lacks d.typeName "get", hd.eq_error_iff.mpr ?_, rfl⟩
      rw [faults_of_not_map _ h]
      rfl
  · rw [h.faults_eq_nil] at hd
    exact hd.exists_ok

end KvMarkup.Parsed
