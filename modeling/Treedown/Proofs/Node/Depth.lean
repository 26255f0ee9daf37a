import Treedown.Proofs.Node.Encoding
/-!
# Nodes — a decoded tree can be written within the limit

A decoder has room for a number of open brackets, and what it comes to can
be written within that room. For the most part this is so because every
bracket that is written was there to be read. The exception is the list of
the rows of a grid, which is written even where it was not read. It fits
because nodes stand at every other level: if there is room for the brackets
of a grid inside a node, there is room for one bracket more.
-/

namespace Treedown

open Json (Decoded Reading nesting)

/-! ## What a decoder has met -/

namespace Json

variable {α β : Type} {room : Nat}

theorem ok_of_ite {c : Prop} [Decidable c] {x y : Decoded α} {a : α}
    (h : (if c then x else y) = .ok a) : x = .ok a ∨ y = .ok a := by
  by_cases hc : c
  · rw [if_pos hc] at h
    exact .inl h
  · rw [if_neg hc] at h
    exact .inr h

theorem ok_of_bind_return {x : Decoded α} {f : α → β} {b : β}
    (h : (do let y ← x; return f y) = .ok b) : ∃ a, x = .ok a ∧ b = f a := by
  obtain ⟨a, ha, hb⟩ := ok_of_bind h
  exact ⟨a, ha, (Except.ok.inj hb).symm⟩

theorem ok_of_decode {f : Nat → Reading → Decoded α} {t : Text} {a : α}
    (h : decode f t = .ok a) : f depthLimit (read t).1 = .ok a := by
  rw [decode] at h
  obtain ⟨b, hb, h⟩ := ok_of_bind h
  rcases ok_of_ite h with h | h
  · cases h
  · exact hb.trans h

theorem ok_of_asOption {decode : Reading → Decoded α} {r : Reading} {x : Option α}
    (h : r.asOption decode = .ok x) : ∀ a ∈ x, decode r = .ok a := by
  by_cases hnull : r = .null
  · subst hnull
    cases h
    exact nofun
  · rw [Reading.asOption_of_ne_null hnull] at h
    obtain ⟨b, hb, rfl⟩ := ok_of_map h
    intro a ha
    rw [hb, Option.mem_some_iff.1 ha]

theorem ok_of_inOrder {halt : Option Halt} {ds : List (Decoded α)} {xs : List α}
    (h : Reading.inOrder halt ds = .ok xs) : ∀ x ∈ xs, .ok x ∈ ds := by
  induction ds generalizing xs with
  | nil =>
    cases halt with
    | none =>
      cases h
      exact nofun
    | some halt => cases h
  | cons d rest ih =>
    rw [Reading.inOrder] at h
    obtain ⟨x, rfl, h⟩ := ok_of_bind h
    obtain ⟨values, hrest, rfl⟩ := ok_of_bind_return h
    intro y hy
    rcases List.mem_cons.1 hy with rfl | hy
    · exact List.mem_cons_self
    · exact List.mem_cons_of_mem _ (ih hrest y hy)

/-- A list was read with room for its bracket, and each item with the room
that was left. -/
theorem ok_of_asList {decode : Nat → Reading → Decoded α} {r : Reading} {xs : List α}
    (h : Reading.asList decode room r = .ok xs) :
    ∃ k, room = k + 1 ∧ ∀ x ∈ xs, ∃ item, decode k item = .ok x := by
  cases r with
  | list items halt =>
    cases room with
    | zero => cases h
    | succ k =>
      refine ⟨k, rfl, fun x hx => ?_⟩
      obtain ⟨item, -, hitem⟩ := List.mem_map.1 (ok_of_inOrder h x hx)
      exact ⟨item, hitem⟩
  | _ => cases h

theorem nesting_texts (ts : List Text) : nesting (texts ts) = 1 := by
  have hflat : nestingItems (ts.map .string) ≤ 0 := by
    rw [nestingItems_le_iff]
    intro item hitem
    obtain ⟨s, -, rfl⟩ := List.mem_map.1 hitem
    exact Nat.le_refl 0
  rw [texts, nesting, Nat.le_zero.1 hflat]

theorem nesting_option_le {encode : α → Json} {x : Option α}
    (h : ∀ a ∈ x, nesting (encode a) ≤ room) : nesting (option encode x) ≤ room := by
  cases x with
  | none => exact Nat.zero_le _
  | some a => exact h a rfl

theorem nestingMembers_append_le_iff {ms ns : List (Text × Json)} :
    nestingMembers (ms ++ ns) ≤ room ↔ nestingMembers ms ≤ room ∧ nestingMembers ns ≤ room := by
  simp only [nestingMembers_le_iff, List.forall_mem_append]

theorem nestingMembers_member?_le {key : Text} {encode : α → Json} {x : Option α}
    (h : ∀ a ∈ x, nesting (encode a) ≤ room) : nestingMembers (member? key encode x) ≤ room := by
  cases x with
  | none => exact Nat.zero_le _
  | some a => exact Nat.max_le.2 ⟨h a rfl, Nat.zero_le _⟩

theorem nestingMembers_nonEmptyMember_le {key : Text} {encode : List α → Json} {xs : List α}
    (h : xs ≠ [] → nesting (encode xs) ≤ room) :
    nestingMembers (nonEmptyMember key encode xs) ≤ room := by
  cases xs with
  | nil => exact Nat.zero_le _
  | cons x xs => exact Nat.max_le.2 ⟨h (List.cons_ne_nil _ _), Nat.zero_le _⟩

end Json

/-! ## Origins, grids and attributes -/

variable {room : Nat}

/-- A list of texts was read with room for its bracket. -/
theorem Grid.nesting_texts_le {r : Reading} {ts : List Text} (h : Grid.cells room r = .ok ts) :
    nesting (Json.texts ts) ≤ room := by
  obtain ⟨k, rfl, -⟩ := Json.ok_of_asList h
  rw [Json.nesting_texts]
  omega

namespace Origin

/-- What has been read of an origin can be written. -/
def Fits (room : Nat) (o : Origin) : Prop :=
  nesting (Json.option Json.texts o.lines) ≤ room

theorem Fits.store {o o' : Origin} {key : Text} {r : Reading} (ho : o.Fits room)
    (h : Origin.store room o key r = .ok o') : o'.Fits room := by
  unfold Origin.store at h
  split at h
  · obtain ⟨path, -, rfl⟩ := Json.ok_of_bind_return h
    exact ho
  split at h
  · obtain ⟨line, -, rfl⟩ := Json.ok_of_bind_return h
    exact ho
  · obtain ⟨lines, hlines, rfl⟩ := Json.ok_of_bind_return h
    exact Json.nesting_option_le fun ts hts =>
      Grid.nesting_texts_le (Json.ok_of_asOption hlines ts hts)

/-- **A decoded origin can be written in the room that it was read in.** -/
theorem nesting_toJson_le {r : Reading} {o : Origin} (h : ofReading room r = .ok o) :
    nesting o.toJson ≤ room := by
  cases room with
  | zero => exact absurd h Reading.record_zero_ne_ok
  | succ k =>
    have hempty : Fits k .empty := Nat.zero_le k
    have hfits : o.Fits k :=
      Reading.record_preserves (Q := fun _ => True) (Reading.Parts.forall_of_forall (fun _ => trivial) _) hempty
        (fun _ _ _ _ _ ho hstore => Fits.store ho hstore) h
    have hmembers : Json.nestingMembers [("path".toList, Json.option .string o.path),
        ("line".toList, Json.option .count o.line), ("lines".toList, Json.option .texts o.lines)] ≤ k :=
      Json.nestingMembers_le_iff.2 (by
        simp only [List.forall_mem_cons, List.not_mem_nil, false_implies, implies_true, and_true]
        exact ⟨Json.nesting_option_le fun _ _ => Nat.zero_le k,
          Json.nesting_option_le fun _ _ => Nat.zero_le k, hfits⟩)
    rw [toJson, nesting]
    omega

end Origin

namespace Grid

/-- What has been read of a grid can be written. -/
structure Fits (room : Nat) (g : Grid) : Prop where
  header : nesting (Json.option Json.texts g.header) ≤ room
  rows : nesting (.list (g.rows.map Json.texts)) ≤ room
  source : nesting (Json.option Origin.toJson g.source) ≤ room

theorem Fits.store {g g' : Grid} {key : Text} {r : Reading} (hg : g.Fits room)
    (h : Grid.store room g key r = .ok g') : g'.Fits room := by
  unfold Grid.store at h
  split at h
  · obtain ⟨header, hheader, rfl⟩ := Json.ok_of_bind_return h
    refine ⟨Json.nesting_option_le fun ts hts => ?_, hg.rows, hg.source⟩
    exact nesting_texts_le (Json.ok_of_asOption hheader ts hts)
  split at h
  · obtain ⟨rows, hrows, rfl⟩ := Json.ok_of_bind_return h
    obtain ⟨k, rfl, hcells⟩ := Json.ok_of_asList hrows
    refine ⟨hg.header, ?_, hg.source⟩
    have hitems : Json.nestingItems (rows.map Json.texts) ≤ k :=
      Json.nestingItems_le_iff.2 fun item hitem => by
        obtain ⟨row, hrow, rfl⟩ := List.mem_map.1 hitem
        obtain ⟨r, hr⟩ := hcells row hrow
        exact nesting_texts_le hr
    change 1 + Json.nestingItems (rows.map Json.texts) ≤ k + 1
    omega
  split at h
  · obtain ⟨columns, -, rfl⟩ := Json.ok_of_bind_return h
    exact ⟨hg.header, hg.rows, hg.source⟩
  · obtain ⟨origin, horigin, rfl⟩ := Json.ok_of_bind_return h
    refine ⟨hg.header, hg.rows, Json.nesting_option_le fun o ho => ?_⟩
    exact Origin.nesting_toJson_le (Json.ok_of_asOption horigin o ho)

/-- **A decoded grid can be written in the room that it was read in**, unless
there was room for its own bracket only: its rows are always written. -/
theorem nesting_toJson_le {r : Reading} {g : Grid} (h : ofReading room r = .ok g)
    (hroom : room ≠ 1) : nesting g.toJson ≤ room := by
  cases room with
  | zero => exact absurd h Reading.record_zero_ne_ok
  | succ k =>
    -- here the bracket of the rows has to fit, though none was read
    have hempty : Fits k .empty := by
      refine ⟨Nat.zero_le k, ?_, Nat.zero_le k⟩
      have hrows : nesting (.list (Grid.empty.rows.map Json.texts)) = 1 := rfl
      omega
    have hfits : g.Fits k :=
      Reading.record_preserves (Q := fun _ => True) (Reading.Parts.forall_of_forall (fun _ => trivial) _) hempty
        (fun _ _ _ _ _ hg hstore => Fits.store hg hstore) h
    have hmembers : Json.nestingMembers [("header".toList, Json.option .texts g.header),
        ("rows".toList, .list (g.rows.map .texts)), ("columns".toList, Json.option .count g.columns),
        ("source".toList, Json.option Origin.toJson g.source)] ≤ k :=
      Json.nestingMembers_le_iff.2 (by
        simp only [List.forall_mem_cons, List.not_mem_nil, false_implies, implies_true, and_true]
        exact ⟨hfits.header, hfits.rows, Json.nesting_option_le fun _ _ => Nat.zero_le k,
          hfits.source⟩)
    rw [toJson, nesting]
    omega

end Grid

/-- Attributes were read with room for their bracket, and that is all they
need. -/
theorem Attributes.nesting_encodeEntries_le {r : Reading} {a : Attributes}
    (h : Attributes.ofReading room r = .ok a) : nesting (encodeEntries a.entries) ≤ room := by
  rw [nesting_encodeEntries]
  cases r with
  | object members halt =>
    cases room with
    | zero => cases h
    | succ k => omega
  | _ => cases h

/-! ## Nodes -/

namespace Node

/-- What has been read of a node can be written. -/
structure Draft.Fits (room : Nat) (d : Draft) : Prop where
  lines : d.fields.lines ≠ [] → nesting (Json.texts d.fields.lines) ≤ room
  attributes : d.fields.attributes.entries ≠ [] →
    nesting (Attributes.encodeEntries d.fields.attributes.entries) ≤ room
  children : toJsonAll d.children ≠ [] → nesting (.list (toJsonAll d.children)) ≤ room
  grid : ∀ g ∈ d.fields.grid, nesting g.toJson ≤ room

theorem Draft.Fits.empty (room : Nat) : Draft.empty.Fits room :=
  ⟨fun h => absurd rfl h, fun h => absurd rfl h, fun h => absurd rfl h, nofun⟩

/-- What the decoder of a value comes to, where the value is read as a list
of trees, can be written. -/
def Part.Fits (room : Nat) (p : Part) : Prop :=
  ∀ nodes, p.trees room = .ok nodes → nesting (.list (toJsonAll nodes)) ≤ room

/-- **Storing a field keeps the draft one that can be written**, where there
is room for an even number of brackets. -/
theorem Draft.Fits.store {d d' : Draft} {key : Text} {p : Part} (heven : room % 2 = 0)
    (hp : p.Fits room) (hd : d.Fits room) (h : Node.store room d key p = .ok d') :
    d'.Fits room := by
  unfold Node.store at h
  rcases Json.ok_of_ite h with h | h
  · obtain ⟨kind, -, rfl⟩ := Json.ok_of_bind_return h
    exact ⟨hd.lines, hd.attributes, hd.children, hd.grid⟩
  rcases Json.ok_of_ite h with h | h
  · obtain ⟨id, -, rfl⟩ := Json.ok_of_bind_return h
    exact ⟨hd.lines, hd.attributes, hd.children, hd.grid⟩
  rcases Json.ok_of_ite h with h | h
  · obtain ⟨title, -, rfl⟩ := Json.ok_of_bind_return h
    exact ⟨hd.lines, hd.attributes, hd.children, hd.grid⟩
  rcases Json.ok_of_ite h with h | h
  · obtain ⟨text, -, rfl⟩ := Json.ok_of_bind_return h
    exact ⟨hd.lines, hd.attributes, hd.children, hd.grid⟩
  rcases Json.ok_of_ite h with h | h
  · obtain ⟨lines, hlines, rfl⟩ := Json.ok_of_bind_return h
    exact ⟨fun _ => Grid.nesting_texts_le hlines, hd.attributes, hd.children, hd.grid⟩
  rcases Json.ok_of_ite h with h | h
  · obtain ⟨level, -, rfl⟩ := Json.ok_of_bind_return h
    exact ⟨hd.lines, hd.attributes, hd.children, hd.grid⟩
  rcases Json.ok_of_ite h with h | h
  · obtain ⟨target, -, rfl⟩ := Json.ok_of_bind_return h
    exact ⟨hd.lines, hd.attributes, hd.children, hd.grid⟩
  rcases Json.ok_of_ite h with h | h
  · obtain ⟨subtype, -, rfl⟩ := Json.ok_of_bind_return h
    exact ⟨hd.lines, hd.attributes, hd.children, hd.grid⟩
  rcases Json.ok_of_ite h with h | h
  · obtain ⟨caption, -, rfl⟩ := Json.ok_of_bind_return h
    exact ⟨hd.lines, hd.attributes, hd.children, hd.grid⟩
  rcases Json.ok_of_ite h with h | h
  · obtain ⟨attributes, hattributes, rfl⟩ := Json.ok_of_bind_return h
    exact ⟨hd.lines, fun _ => Attributes.nesting_encodeEntries_le hattributes, hd.children, hd.grid⟩
  rcases Json.ok_of_ite h with h | h
  · obtain ⟨children, hchildren, rfl⟩ := Json.ok_of_bind_return h
    exact ⟨hd.lines, hd.attributes, fun _ => hp children hchildren, hd.grid⟩
  · obtain ⟨grid, hgrid, rfl⟩ := Json.ok_of_bind_return h
    refine ⟨hd.lines, hd.attributes, hd.children, fun g hg => ?_⟩
    -- an even number is not the one under which the rows of a grid do not fit
    exact Grid.nesting_toJson_le (Json.ok_of_asOption hgrid g hg) (by omega)

/-- A draft that can be written has become a node that can be written, with
room for its own bracket. -/
theorem Draft.Fits.nesting_toNode_le {d : Draft} (h : d.Fits room) :
    nesting d.toNode.toJson ≤ room + 1 := by
  have htext (s : Text) : nesting (.string s) ≤ room := Nat.zero_le room
  have hmembers : Json.nestingMembers
      (members (d.kind.getD (.known .text)) d.fields (toJsonAll d.children)) ≤ room := by
    rw [members]
    simp only [Json.nestingMembers_append_le_iff, Json.member]
    exact ⟨⟨⟨⟨⟨⟨⟨⟨⟨⟨⟨Nat.zero_le room, Json.nestingMembers_member?_le fun s _ => htext s⟩,
      Json.nestingMembers_member?_le fun s _ => htext s⟩,
      Json.nestingMembers_member?_le fun s _ => htext s⟩,
      Json.nestingMembers_nonEmptyMember_le h.lines⟩, Nat.zero_le room⟩,
      Json.nestingMembers_member?_le fun s _ => htext s⟩,
      Json.nestingMembers_member?_le fun s _ => htext s⟩,
      Json.nestingMembers_member?_le fun s _ => htext s⟩,
      Json.nestingMembers_nonEmptyMember_le h.attributes⟩,
      Json.nestingMembers_nonEmptyMember_le h.children⟩, Json.nestingMembers_member?_le h.grid⟩
  rw [Draft.toNode, toJson, nesting]
  omega

/-- A record of parts that fit comes to a node that fits. -/
theorem nesting_le_of_ofParts {parts : Reading.Parts Part} {n : Node} (hodd : room % 2 = 1)
    (h : ofParts parts room = .ok n) (hparts : ∀ k, k % 2 = 0 → parts.Forall (Part.Fits k)) :
    nesting n.toJson ≤ room := by
  obtain ⟨k, rfl⟩ : ∃ k, room = k + 1 := ⟨room - 1, by omega⟩
  have heven : k % 2 = 0 := by omega
  obtain ⟨d, hd, rfl⟩ := Json.ok_of_map h
  have hfits : d.Fits k := Reading.record_preserves (hparts k heven) (Draft.Fits.empty k)
    (fun _ _ _ _ hp hd hstore => Draft.Fits.store heven hp hd hstore) hd
  exact hfits.nesting_toNode_le

mutual

/-- **A decoded tree can be written in the room that it was read in**, where
there is room for an odd number of brackets. -/
theorem nesting_le_of_ofReading (r : Reading) {room : Nat} {n : Node} (hodd : room % 2 = 1)
    (h : ofReading r room = .ok n) : nesting n.toJson ≤ room := by
  match r with
  | .object members halt =>
    rw [ofReading] at h
    exact nesting_le_of_ofParts hodd h fun k hk => fits_memberParts members hk
  | .list items halt =>
    rw [ofReading] at h
    exact nesting_le_of_ofParts hodd h fun k hk => fits_itemParts items hk
  | .null | .bool _ | .number _ | .string _ | .flawed _ => cases h

theorem fits_part (r : Reading) {room : Nat} (heven : room % 2 = 0) :
    Part.Fits room ⟨r, allOfReading r⟩ := by
  intro nodes h
  match r with
  | .list items halt =>
    cases room with
    | zero => cases h
    | succ k =>
      have hitems : Json.nestingItems (toJsonAll nodes) ≤ k := by
        rw [toJsonAll_eq_map, Json.nestingItems_le_iff, List.forall_mem_map]
        intro node hnode
        obtain ⟨decode, hdecode, hnode⟩ := List.mem_map.1 (Json.ok_of_inOrder h node hnode)
        exact fits_decoders items decode hdecode (by omega) hnode
      rw [nesting]
      omega
  | .object members halt => cases h
  | .null | .bool _ | .number _ | .string _ | .flawed _ => cases h

theorem fits_decoders (items : List Reading) {room : Nat} {n : Node} :
    ∀ decode ∈ decoders items, room % 2 = 1 → decode room = .ok n → nesting n.toJson ≤ room := by
  match items with
  | [] => exact nofun
  | r :: rest =>
    rw [decoders, List.forall_mem_cons]
    exact ⟨nesting_le_of_ofReading r, fits_decoders rest⟩

theorem fits_itemParts (items : List Reading) {room : Nat} (heven : room % 2 = 0) :
    ∀ p ∈ itemParts items, p.Fits room := by
  match items with
  | [] => exact nofun
  | r :: rest =>
    rw [itemParts, List.forall_mem_cons]
    exact ⟨fits_part r heven, fits_itemParts rest heven⟩

theorem fits_memberParts (members : List (Json.Key × Reading)) {room : Nat} (heven : room % 2 = 0) :
    ∀ m ∈ memberParts members, m.2.Fits room := by
  match members with
  | [] => exact nofun
  | (key, r) :: rest =>
    rw [memberParts, List.forall_mem_cons]
    exact ⟨fits_part r heven, fits_memberParts rest heven⟩

end

end Node

end Treedown
