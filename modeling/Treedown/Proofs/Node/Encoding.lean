import Treedown.Node.Decode
import Treedown.Proofs.Json.Record
/-!
# Nodes — an encoded tree is decoded

The fields of an origin, a grid and a node as slots: what is written for a
field, and that what is left out stands for the default of the decoder. In
each record slots and decoder agree, so each is decoded from its own JSON
form, provided that this form does not nest too deep (`ofReading_toJson`).
-/

namespace Treedown

open Json (Decoded Reading Slot within reading nesting written putAll AgreesAll)

/-! ## Texts, counts and options -/

section

variable {α β : Type} {room n : Nat} {a : α}

/-- A decoded value is put into its field. -/
theorem Json.store_within {x : Decoded α} {f : α → β} (h : x = within n room a) :
    (do let y ← x; return f y) = within n room (f a) := by
  rw [h]
  exact Json.within_bind_map _ _ _ _

theorem Json.asString_reading (s : Text) (room : Nat) :
    Reading.asString (reading (.string s)) = within (nesting (.string s)) room s :=
  (Json.within_zero room s).symm

theorem Json.asCount_reading (n : UInt64) (room : Nat) :
    Reading.asCount (reading (Json.count n)) = within (nesting (Json.count n)) room n := by
  have hcount : Reading.asCount (reading (Json.count n)) = .ok (.ofNat n.toNat) := rfl
  rw [hcount, UInt64.ofNat_toNat]
  exact (Json.within_zero room n).symm

/-- A list of texts is read as it was written. -/
theorem Grid.cells_reading (ts : List Text) (room : Nat) :
    Grid.cells room (reading (Json.texts ts)) = within (nesting (Json.texts ts)) room ts :=
  Json.asList_reading Json.asString_reading ts room

/-- A value that may be absent is read as it was written, if the value
itself is and is not written as `null`. -/
theorem Json.asOption_reading {decode : Reading → Decoded α} {encode : α → Json}
    (hnull : ∀ x, reading (encode x) ≠ .null)
    (h : ∀ x, decode (reading (encode x)) = within (nesting (encode x)) room x) (x : Option α) :
    (reading (Json.option encode x)).asOption decode =
      within (nesting (Json.option encode x)) room x := by
  cases x with
  | none => exact (Json.within_zero room none).symm
  | some x =>
    rw [Json.option, Reading.asOption_of_ne_null (hnull x), h x]
    exact Json.within_map _ _ _ _

end

/-! ## Origins -/

namespace Origin

/-- The fields of an origin. -/
def slots (o : Origin) : List (Slot Origin) :=
  [⟨"path", some (.option .string o.path), fun p => { p with path := o.path }⟩,
    ⟨"line", some (.option .count o.line), fun p => { p with line := o.line }⟩,
    ⟨"lines", some (.option .texts o.lines), fun p => { p with lines := o.lines }⟩]

theorem toJson_eq_written (o : Origin) : o.toJson = .object (written o.slots) := rfl

theorem agrees_slots (o : Origin) (room : Nat) :
    AgreesAll (store room) reading room .empty o.slots := by
  refine ⟨⟨nofun, ?_⟩, ⟨nofun, ?_⟩, ⟨nofun, ?_⟩, trivial⟩
  · rintro _ ⟨rfl⟩
    exact Json.store_within (Json.asOption_reading nofun (fun s => (Json.within_zero room s).symm) _)
  · rintro _ ⟨rfl⟩
    exact Json.store_within (Json.asOption_reading nofun (fun n => Json.asCount_reading n room) _)
  · rintro _ ⟨rfl⟩
    exact Json.store_within (Json.asOption_reading nofun (fun ts => Grid.cells_reading ts room) _)

/-- **An origin is decoded from its JSON form.** -/
theorem ofReading_toJson (o : Origin) (room : Nat) :
    ofReading room (reading o.toJson) = within (nesting o.toJson) room o := by
  have hkeys : o.slots.map Slot.key = layout.fields.map Prod.fst := rfl
  rw [ofReading, toJson_eq_written, Json.reading, Json.memberReadings_eq_map, Reading.parts,
    Reading.Fields.record_written_of_optional layout o.agrees_slots hkeys (by decide) (by decide)]
  rfl

end Origin

/-! ## Grids -/

namespace Grid

/-- The fields of a grid. -/
def slots (g : Grid) : List (Slot Grid) :=
  [⟨"header", some (.option .texts g.header), fun p => { p with header := g.header }⟩,
    ⟨"rows", some (.list (g.rows.map .texts)), fun p => { p with rows := g.rows }⟩,
    ⟨"columns", some (.option .count g.columns), fun p => { p with columns := g.columns }⟩,
    ⟨"source", some (.option Origin.toJson g.source), fun p => { p with source := g.source }⟩]

theorem toJson_eq_written (g : Grid) : g.toJson = .object (written g.slots) := rfl

theorem agrees_slots (g : Grid) (room : Nat) :
    AgreesAll (store room) reading room .empty g.slots := by
  refine ⟨⟨nofun, ?_⟩, ⟨nofun, ?_⟩, ⟨nofun, ?_⟩, ⟨nofun, ?_⟩, trivial⟩
  · rintro _ ⟨rfl⟩
    exact Json.store_within (Json.asOption_reading nofun (fun ts => cells_reading ts room) _)
  · rintro _ ⟨rfl⟩
    exact Json.store_within (Json.asList_reading cells_reading g.rows room)
  · rintro _ ⟨rfl⟩
    exact Json.store_within (Json.asOption_reading nofun (fun n => Json.asCount_reading n room) _)
  · rintro _ ⟨rfl⟩
    exact Json.store_within
      (Json.asOption_reading nofun (fun o => Origin.ofReading_toJson o room) _)

/-- **A grid is decoded from its JSON form.** -/
theorem ofReading_toJson (g : Grid) (room : Nat) :
    ofReading room (reading g.toJson) = within (nesting g.toJson) room g := by
  have hkeys : g.slots.map Slot.key = layout.fields.map Prod.fst := rfl
  rw [ofReading, toJson_eq_written, Json.reading, Json.memberReadings_eq_map, Reading.parts,
    Reading.Fields.record_written_of_optional layout g.agrees_slots hkeys (by decide) (by decide)]
  rfl

end Grid

/-! ## Attributes -/

namespace Attributes

/-- A new name is written behind the others. -/
theorem write_of_not_mem {key : Text} (value : Text) {entries : List (Text × Text)}
    (h : key ∉ entries.map Prod.fst) : write key value entries = entries ++ [(key, value)] := by
  induction entries with
  | nil => rfl
  | cons entry rest ih =>
    obtain ⟨k, v⟩ := entry
    rw [List.map_cons, List.mem_cons, not_or] at h
    rw [write, if_neg fun heq => h.1 heq.symm, ih h.2]
    rfl

theorem eq_of_entries {a b : Attributes} (h : a.entries = b.entries) : a = b := by
  cases a
  cases b
  cases h
  rfl

/-- The entries of an object are stored in their order. -/
theorem ofMembers_readings (room : Nat) {done all : Attributes} {entries : List (Text × Text)}
    (h : all.entries = done.entries ++ entries) :
    ofMembers room done (entries.map fun p => (.ok p.1, reading (.string p.2))) = .ok all := by
  induction entries generalizing done with
  | nil =>
    rw [List.append_nil] at h
    rw [List.map_nil, ofMembers, eq_of_entries h]
  | cons entry rest ih =>
    obtain ⟨key, value⟩ := entry
    -- the names of attributes differ, so this one is written behind the others
    have hkey : key ∉ done.entries.map Prod.fst := fun hmem => by
      have hnodup := all.keys_nodup
      rw [h, List.map_append, List.nodup_append] at hnodup
      exact hnodup.2.2 key hmem key List.mem_cons_self rfl
    have hset : all.entries = (done.set key value).entries ++ rest := by
      have hwrite : (done.set key value).entries = done.entries ++ [(key, value)] :=
        write_of_not_mem value hkey
      rw [hwrite, h, List.append_assoc]
      rfl
    exact ih hset

theorem nesting_encodeEntries (entries : List (Text × Text)) : nesting (encodeEntries entries) = 1 := by
  have hflat : Json.nestingMembers (entries.map fun p => (p.1, .string p.2)) ≤ 0 := by
    rw [Json.nestingMembers_le_iff]
    intro member hmember
    obtain ⟨p, -, rfl⟩ := List.mem_map.1 hmember
    exact Nat.le_refl 0
  rw [encodeEntries, nesting, Nat.le_zero.1 hflat]

/-- **Attributes are decoded from their JSON form**: they keep their
order. -/
theorem ofReading_encodeEntries (a : Attributes) (room : Nat) :
    ofReading room (reading (encodeEntries a.entries)) =
      within (nesting (encodeEntries a.entries)) room a := by
  rw [nesting_encodeEntries, encodeEntries, reading, Json.memberReadings_eq_map, List.map_map]
  cases room with
  | zero => rfl
  | succ room =>
    have hread : ofMembers room .empty (a.entries.map fun p => (.ok p.1, reading (.string p.2))) =
        .ok a := ofMembers_readings room rfl
    rw [Json.within_of_le (by omega)]
    exact congrArg (fun x : Decoded Attributes => do
      let done ← x
      Reading.ended none
      return done) hread

end Attributes

/-! ## Nodes -/

namespace Node

/-- A field of a node that is left out where its value is absent. -/
def optionSlot {α : Type} (key : Text) (encode : α → Json) (x : Option α)
    (put : Fields → Fields) : Slot Draft :=
  ⟨key, x.map encode, fun d => { d with fields := put d.fields }⟩

/-- **The fields of a node.** -/
def slots (kind : Kind) (f : Fields) (children : List Node) : List (Slot Draft) :=
  [⟨"kind", some (.string kind.name), fun d => { d with kind := some kind }⟩,
    optionSlot "id" .string f.id ({ · with id := f.id }),
    optionSlot "title" .string f.title ({ · with title := f.title }),
    optionSlot "text" .string f.text ({ · with text := f.text }),
    ⟨"lines", if f.lines.isEmpty then none else some (.texts f.lines),
      fun d => { d with fields := { d.fields with lines := f.lines } }⟩,
    ⟨"level", some (.count f.level),
      fun d => { d with fields := { d.fields with level := f.level } }⟩,
    optionSlot "target" .string f.target ({ · with target := f.target }),
    optionSlot "type" .string f.subtype ({ · with subtype := f.subtype }),
    optionSlot "caption" .string f.caption ({ · with caption := f.caption }),
    ⟨"attributes",
      if f.attributes.entries.isEmpty then none
      else some (Attributes.encodeEntries f.attributes.entries),
      fun d => { d with fields := { d.fields with attributes := f.attributes } }⟩,
    ⟨"children", if children.isEmpty then none else some (.list (toJsonAll children)),
      fun d => { d with children := children }⟩,
    optionSlot "table" Grid.toJson f.grid ({ · with grid := f.grid })]

theorem toJsonAll_eq_map (nodes : List Node) : toJsonAll nodes = nodes.map toJson := by
  induction nodes with
  | nil => rfl
  | cons node rest ih => rw [toJsonAll, ih, List.map_cons]

theorem member?_eq {α : Type} (key : Text) (encode : α → Json) (x : Option α) :
    Json.member? key encode x = ((x.map encode).map (key, ·)).toList := by
  cases x <;> rfl

theorem nonEmptyMember_eq {α : Type} (key : Text) (encode : List α → Json) (xs : List α) :
    Json.nonEmptyMember key encode xs =
      ((if xs.isEmpty then none else some (encode xs)).map (key, ·)).toList := by
  cases xs <;> rfl

/-- The slots of a node are its members. -/
theorem members_eq_written (kind : Kind) (f : Fields) (children : List Node) :
    members kind f (toJsonAll children) = written (slots kind f children) := by
  have hempty : (toJsonAll children).isEmpty = children.isEmpty := by
    rw [toJsonAll_eq_map, List.isEmpty_map]
  have hnil : written ([] : List (Slot Draft)) = [] := rfl
  simp only [members, member?_eq, nonEmptyMember_eq, hempty, slots, Json.written_cons, optionSlot,
    List.append_assoc, hnil, List.append_nil]
  rfl

/-- All slots together fill a draft. -/
theorem putAll_slots (kind : Kind) (f : Fields) (children : List Node) :
    putAll (slots kind f children) .empty = ⟨some kind, f, children⟩ := by
  simp only [putAll, slots, optionSlot, List.foldl_cons, List.foldl_nil]

/-- A value, with the decoder that reads it as a list of trees. -/
def part (v : Json) : Part :=
  ⟨reading v, allOfReading (reading v)⟩

section

variable {room : Nat} {d : Draft} {key : Text}

theorem agrees_optionSlot {α : Type} {encode : α → Json} {x : Option α} {put : Fields → Fields}
    (hnone : x = none → put d.fields = d.fields)
    (hsome : ∀ a, x = some a → store room d key (part (encode a)) =
      within (nesting (encode a)) room { d with fields := put d.fields }) :
    (optionSlot key encode x put).Agrees (store room) part room d := by
  cases x with
  | none =>
    refine ⟨fun _ => ?_, nofun⟩
    change ({ d with fields := put d.fields } : Draft) = d
    rw [hnone rfl]
  | some a =>
    refine ⟨nofun, ?_⟩
    rintro _ ⟨rfl⟩
    exact hsome a rfl

theorem agrees_listSlot {v : Json} {isEmpty : Bool} {put : Draft → Draft}
    (hnone : isEmpty = true → put d = d)
    (hsome : store room d key (part v) = within (nesting v) room (put d)) :
    (⟨key, if isEmpty then none else some v, put⟩ : Slot Draft).Agrees (store room) part room d := by
  cases isEmpty with
  | true => exact ⟨fun _ => hnone rfl, nofun⟩
  | false =>
    refine ⟨nofun, ?_⟩
    rintro _ ⟨rfl⟩
    exact hsome

end

/-- **What is written for a node is what its decoder stores**, and what is
left out is the default. -/
theorem agrees_slots (kind : Kind) (f : Fields) (children : List Node) (room : Nat)
    (h : allOfReading (reading (.list (toJsonAll children))) room =
      within (nesting (.list (toJsonAll children))) room children) :
    AgreesAll (store room) part room .empty (slots kind f children) := by
  have htext (s : Text) : Reading.asOption Reading.asString (reading (.string s)) =
      within (nesting (.string s)) room (some s) := (Json.within_zero room _).symm
  have hgrid (g : Grid) : Reading.asOption (Grid.ofReading room) (reading g.toJson) =
      within (nesting g.toJson) room (some g) := by
    have hne : reading g.toJson ≠ .null := nofun
    rw [Reading.asOption_of_ne_null hne, Grid.ofReading_toJson]
    exact Json.within_map _ _ _ _
  -- in turn: what is left out is the default, and what is written is stored
  refine ⟨⟨nofun, ?kind⟩, agrees_optionSlot ?_ ?id, agrees_optionSlot ?_ ?title,
    agrees_optionSlot ?_ ?text, agrees_listSlot ?noLines ?lines, ⟨nofun, ?level⟩,
    agrees_optionSlot ?_ ?target, agrees_optionSlot ?_ ?subtype, agrees_optionSlot ?_ ?caption,
    agrees_listSlot ?noAttributes ?attributes, agrees_listSlot ?noChildren ?children,
    agrees_optionSlot ?_ ?grid, trivial⟩
  case kind =>
    rintro _ ⟨rfl⟩
    refine (Json.store_within (Json.asString_reading kind.name room)).trans ?_
    rw [Kind.ofName_name]
  case noLines =>
    intro hempty
    rw [List.isEmpty_iff.1 hempty]
    rfl
  case lines => exact Json.store_within (Grid.cells_reading f.lines room)
  case level =>
    rintro _ ⟨rfl⟩
    exact Json.store_within (Json.asCount_reading f.level room)
  case noAttributes =>
    intro hempty
    have hentries : f.attributes = .empty :=
      Attributes.eq_of_entries (List.isEmpty_iff.1 hempty)
    rw [hentries]
    rfl
  case attributes => exact Json.store_within (Attributes.ofReading_encodeEntries f.attributes room)
  case noChildren =>
    intro hempty
    rw [List.isEmpty_iff.1 hempty]
    rfl
  case children => exact Json.store_within h
  case grid =>
    intro g hg
    rw [hg]
    exact Json.store_within (hgrid g)
  case id | title | text | target | subtype | caption =>
    intro s hs
    rw [hs]
    exact Json.store_within (htext s)
  all_goals
    intro hnone
    rw [hnone]
    rfl

theorem memberParts_memberReadings (members : List (Text × Json)) :
    memberParts (Json.memberReadings members) = members.map fun m => (.ok m.1, part m.2) := by
  induction members with
  | nil => rfl
  | cons member rest ih => rw [Json.memberReadings, memberParts, ih, List.map_cons, part]

/-- The record of a node is read as it was written, if its children are. -/
theorem ofReading_of_children (kind : Kind) (f : Fields) (children : List Node) (room : Nat)
    (h : ∀ room, allOfReading (reading (.list (toJsonAll children))) room =
      within (nesting (.list (toJsonAll children))) room children) :
    ofReading (reading (Node.mk kind f children).toJson) room =
      within (nesting (Node.mk kind f children).toJson) room (.mk kind f children) := by
  have hkeys : (slots kind f children).map Slot.key = layout.fields.map Prod.fst := rfl
  -- only the kind must be there, and it is always written
  have honly : ∀ field ∈ layout.fields, field.2 = true → field.1 = "kind".toList := by decide
  have hrequired : ∀ field ∈ layout.fields, field.2 = true →
      field.1 ∈ (written (slots kind f children)).map Prod.fst := fun field hfield hmust => by
    rw [honly field hfield hmust, slots, Json.written_cons]
    exact List.mem_cons_self
  rw [toJson, members_eq_written, Json.reading, ofReading, ofParts, memberParts_memberReadings,
    Reading.Fields.record_written layout (fun room => agrees_slots kind f children room (h room))
      hkeys (by decide) hrequired, putAll_slots]
  exact Json.within_map _ _ _ _

mutual

/-- **A tree is decoded from its JSON form**, unless this form nests too
deep; then it is malformed. -/
theorem ofReading_toJson (n : Node) (room : Nat) :
    ofReading (reading n.toJson) room = within (nesting n.toJson) room n := by
  match n with
  | .mk kind f children =>
    refine ofReading_of_children kind f children room fun room => ?_
    rw [Json.reading, allOfReading, nesting]
    cases room with
    | zero => exact (Json.within_of_lt (by omega)).symm
    | succ room =>
      simp only
      rw [decoders_readings children room, Reading.inOrder_within (fun n : Node => nesting n.toJson),
        Json.within_succ, toJsonAll_eq_map, Json.nestingItems_map]

theorem decoders_readings (nodes : List Node) (room : Nat) :
    (decoders (Json.readings (toJsonAll nodes))).map (· room) =
      nodes.map fun n => within (nesting n.toJson) room n := by
  match nodes with
  | [] => rfl
  | node :: rest =>
    rw [toJsonAll, Json.readings, decoders, List.map_cons, List.map_cons,
      ofReading_toJson node room, decoders_readings rest room]

end

end Node

end Treedown
