import Treedown.Proofs.Json.Nesting
import Treedown.Json.Decode
/-!
# JSON — records are read as they are written

A record is written slot by slot: a slot holds the key of a field, the
value that is written there, if any, and what reading it does to the state
of the decoder. `AgreesAll` says that decoder and slots belong together: a
value is stored if it fits under the limit of nesting, and what is left out
would have changed nothing. From slots that agree `record` comes to the
state that all of them lead to, or the text is malformed because it nests
too deep (`record_written`). In the other direction `record_preserves`
carries a fact about states through whatever is read.
-/

namespace Treedown.Json

variable {α β σ ρ : Type}

/-! ## Values under the limit -/

/-- **A value that is decoded if its text nests no deeper than the limit**,
and is malformed otherwise. -/
def within (depth room : Nat) (a : α) : Decoded α :=
  if depth ≤ room then .ok a else .error (.flaw .malformed)

theorem within_of_le {depth room : Nat} {a : α} (h : depth ≤ room) : within depth room a = .ok a :=
  if_pos h

theorem within_zero (room : Nat) (a : α) : within 0 room a = .ok a :=
  within_of_le (Nat.zero_le _)

theorem within_of_lt {depth room : Nat} {a : α} (h : room < depth) :
    within depth room a = .error (.flaw .malformed) :=
  if_neg (Nat.not_le.2 h)

theorem within_succ (depth room : Nat) (a : α) :
    within (1 + depth) (room + 1) a = within depth room a := by
  rw [within, within, Nat.add_comm 1 depth]
  simp only [Nat.add_le_add_iff_right]

theorem within_map (depth room : Nat) (a : α) (f : α → β) :
    (within depth room a).map f = within depth room (f a) := by
  rw [within, within]
  split <;> rfl

theorem within_bind_map (depth room : Nat) (a : α) (f : α → β) :
    (do let x ← within depth room a; return f x) = within depth room (f a) := by
  rw [within, within]
  split <;> rfl

/-- The deeper of two values decides. -/
theorem within_bind_within (m n room : Nat) (a : α) (b : β) (f : α → β → σ) :
    (do let x ← within m room a; let y ← within n room b; return f x y) =
      within (max m n) room (f a b) := by
  by_cases hm : m ≤ room
  · rw [within_of_le hm]
    by_cases hn : n ≤ room
    · rw [within_of_le hn, within_of_le (Nat.max_le.2 ⟨hm, hn⟩)]
      rfl
    · have hmax : room < max m n := by omega
      rw [within_of_lt (Nat.not_le.1 hn), within_of_lt hmax]
      rfl
  · have hmax : room < max m n := by omega
    rw [within_of_lt (Nat.not_le.1 hm), within_of_lt hmax]
    rfl

/-! ## What has been decoded -/

theorem ok_of_bind {x : Decoded α} {f : α → Decoded β} {b : β} (h : x >>= f = .ok b) :
    ∃ a, x = .ok a ∧ f a = .ok b := by
  cases x with
  | error fault => cases h
  | ok a => exact ⟨a, rfl, h⟩

theorem ok_of_map {x : Decoded α} {f : α → β} {b : β} (h : x.map f = .ok b) :
    ∃ a, x = .ok a ∧ b = f a := by
  cases x with
  | error fault => cases h
  | ok a =>
    cases h
    exact ⟨a, rfl, rfl⟩

namespace Reading

/-! ## Options and lists -/

/-- A value that may be absent is decoded where the value is, unless it
could be taken for `null`. -/
theorem asOption_of_ne_null {decode : Reading → Decoded α} {r : Reading} (h : r ≠ .null) :
    r.asOption decode = (decode r).map some := by
  cases r <;> first | rfl | exact absurd rfl h

/-- Decoders that all succeed under the limit succeed together under it. -/
theorem inOrder_within (depth : α → Nat) (room : Nat) (xs : List α) :
    inOrder none (xs.map fun x => within (depth x) room x) =
      within (xs.foldr (fun x n => max (depth x) n) 0) room xs := by
  induction xs with
  | nil => exact (within_zero room []).symm
  | cons x rest ih =>
    rw [List.map_cons, inOrder, ih]
    exact within_bind_within _ _ _ _ _ _

end Reading

theorem readings_eq_map (items : List Json) : readings items = items.map reading := by
  induction items with
  | nil => rfl
  | cons item rest ih => rw [readings, ih, List.map_cons]

theorem nestingItems_map (encode : α → Json) (xs : List α) :
    nestingItems (xs.map encode) = xs.foldr (fun x n => max (nesting (encode x)) n) 0 := by
  induction xs with
  | nil => rfl
  | cons x rest ih => rw [List.map_cons, nestingItems, ih, List.foldr_cons]

theorem memberReadings_eq_map (members : List (Text × Json)) :
    memberReadings members = members.map fun m => (.ok m.1, reading m.2) := by
  induction members with
  | nil => rfl
  | cons member rest ih => rw [memberReadings, ih, List.map_cons]

/-- **A list is read as it was written**, if its items are. -/
theorem asList_reading {decode : Nat → Reading → Decoded α} {encode : α → Json}
    (h : ∀ x room, decode room (reading (encode x)) = within (nesting (encode x)) room x)
    (xs : List α) (room : Nat) :
    Reading.asList decode room (reading (.list (xs.map encode))) =
      within (nesting (.list (xs.map encode))) room xs := by
  have hitems (room : Nat) : (readings (xs.map encode)).map (decode room) =
      xs.map fun x => within (nesting (encode x)) room x := by
    rw [readings_eq_map, List.map_map, List.map_map]
    exact List.map_congr_left fun x _ => h x room
  rw [reading, nesting]
  cases room with
  | zero => exact (within_of_lt (by omega)).symm
  | succ room =>
    rw [Reading.asList, hitems, Reading.inOrder_within (fun x => nesting (encode x)), within_succ,
      nestingItems_map]

/-! ## Slots -/

/-- **A field of a record as it is written.** -/
structure Slot (σ : Type) where
  key : Text
  /-- Nothing where the field is left out. -/
  value : Option Json
  /-- What reading the field does. -/
  put : σ → σ

/-- The members of a record. -/
def written (slots : List (Slot σ)) : List (Text × Json) :=
  slots.filterMap fun s => s.value.map (s.key, ·)

theorem written_cons (s : Slot σ) (rest : List (Slot σ)) :
    written (s :: rest) = (s.value.map (s.key, ·)).toList ++ written rest := by
  rw [written, List.filterMap_cons]
  cases h : s.value <;> rfl

/-- What reading all fields does. -/
def putAll (slots : List (Slot σ)) (state : σ) : σ :=
  slots.foldl (fun state s => s.put state) state

/-- **A slot agrees with a decoder** in a state: a value is stored as it was
written, if it fits, and what is left out is what the state holds
already. -/
def Slot.Agrees (store : σ → Text → ρ → Decoded σ) (lift : Json → ρ) (room : Nat) (state : σ)
    (s : Slot σ) : Prop :=
  (s.value = none → s.put state = state) ∧
    ∀ v, s.value = some v → store state s.key (lift v) = within (nesting v) room (s.put state)

/-- All slots agree, each in the state to which those before it lead. -/
def AgreesAll (store : σ → Text → ρ → Decoded σ) (lift : Json → ρ) (room : Nat) :
    σ → List (Slot σ) → Prop
  | _, [] => True
  | state, s :: rest =>
    s.Agrees store lift room state ∧ AgreesAll store lift room (s.put state) rest

namespace Reading

namespace Fields

/-- A known member that has not been seen is stored. -/
theorem ofMembers_cons (f : Fields) {store : σ → Text → ρ → Decoded σ} {skip : ρ → Option Flaw}
    {state : σ} {key : Text} {value : ρ} {seen : List Text} {rest : List (Key × ρ)}
    (hknown : f.fields.any (·.1 == key) = true) (hseen : key ∉ seen) :
    f.ofMembers store skip state seen ((.ok key, value) :: rest) = (do
      let state ← store state key value
      f.ofMembers store skip state (key :: seen) rest) := by
  simp only [ofMembers, Except.mapError, bind, Except.bind, hknown, hseen, if_true, if_false]

/-- **The members of a record are stored one after the other**, until one
of them is too deep. -/
theorem ofMembers_written (f : Fields) {store : σ → Text → ρ → Decoded σ} {lift : Json → ρ}
    {skip : ρ → Option Flaw} {room : Nat} {state : σ} {slots : List (Slot σ)} {seen : List Text}
    (h : AgreesAll store lift room state slots)
    (hknown : ∀ s ∈ slots, f.fields.any (·.1 == s.key) = true)
    (hnodup : (slots.map Slot.key).Nodup) (hseen : ∀ s ∈ slots, s.key ∉ seen) :
    f.ofMembers store skip state seen ((written slots).map fun m => (.ok m.1, lift m.2)) =
      within (nestingMembers (written slots)) room
        (putAll slots state, ((written slots).map Prod.fst).reverse ++ seen) := by
  induction slots generalizing state seen with
  | nil => exact (within_zero room _).symm
  | cons s rest ih =>
    obtain ⟨⟨hnone, hsome⟩, hrest⟩ := h
    obtain ⟨hknown, hknownRest⟩ := List.forall_mem_cons.1 hknown
    obtain ⟨hseen, hseenRest⟩ := List.forall_mem_cons.1 hseen
    obtain ⟨hfresh, hnodup⟩ := List.nodup_cons.1 hnodup
    cases hv : s.value with
    | none =>
      -- what is left out would have changed nothing: go on in the same state
      have hwritten : written (s :: rest) = written rest := by
        rw [written_cons, hv]
        rfl
      have hput : putAll (s :: rest) state = putAll rest state := by
        rw [putAll, List.foldl_cons, hnone hv, putAll]
      rw [hnone hv] at hrest
      rw [hwritten, hput]
      exact ih hrest hknownRest hnodup hseenRest
    | some v =>
      have hwritten : written (s :: rest) = (s.key, v) :: written rest := by
        rw [written_cons, hv]
        rfl
      -- no later field has this key, as the keys differ
      have hrestSeen : ∀ r ∈ rest, r.key ∉ s.key :: seen := fun r hr => by
        rw [List.mem_cons, not_or]
        exact ⟨fun heq => hfresh (heq ▸ List.mem_map_of_mem hr), hseenRest r hr⟩
      have ih := ih hrest hknownRest hnodup hrestSeen
      rw [hwritten, List.map_cons, ofMembers_cons f hknown hseen, hsome v hv]
      by_cases hfits : nesting v ≤ room
      · rw [within_of_le hfits]
        refine ih.trans ?_
        rw [nestingMembers, within, within]
        simp only [Nat.max_le, hfits, true_and]
        rw [List.map_cons, List.reverse_cons, List.append_assoc]
        rfl
      · have hdeep : room < nestingMembers ((s.key, v) :: written rest) := by
          rw [nestingMembers]
          omega
        rw [within_of_lt (Nat.not_le.1 hfits), within_of_lt hdeep]
        rfl

/-- **A record is read as it was written**: it comes to the state that all
slots lead to, unless it nests too deep. -/
theorem record_written (f : Fields) {store : Nat → σ → Text → ρ → Decoded σ} {lift : Json → ρ}
    {skip : ρ → Option Flaw} {initial : σ} {slots : List (Slot σ)}
    (h : ∀ room, AgreesAll (store room) lift room initial slots)
    (hkeys : slots.map Slot.key = f.fields.map Prod.fst) (hnodup : (f.fields.map Prod.fst).Nodup)
    (hrequired : ∀ field ∈ f.fields, field.2 = true → field.1 ∈ (written slots).map Prod.fst)
    (room : Nat) :
    record f store skip initial room
        (.members ((written slots).map fun m => (.ok m.1, lift m.2)) none) =
      within (nesting (.object (written slots))) room (putAll slots initial) := by
  rw [nesting]
  cases room with
  | zero => exact (within_of_lt (by omega)).symm
  | succ room =>
    have hknown : ∀ s ∈ slots, f.fields.any (·.1 == s.key) = true := fun s hs => by
      have hmem : s.key ∈ f.fields.map Prod.fst := hkeys ▸ List.mem_map_of_mem hs
      obtain ⟨field, hfield, heq⟩ := List.mem_map.1 hmem
      rw [List.any_eq_true]
      exact ⟨field, hfield, beq_iff_eq.2 heq⟩
    -- no field that must be there is missing at the end
    have hfind : f.fields.find? (fun field => field.2 &&
        !(((written slots).map Prod.fst).reverse ++ []).contains field.1) = none := by
      rw [List.find?_eq_none]
      intro field hfield hmissing
      rw [Bool.and_eq_true] at hmissing
      have := hrequired field hfield hmissing.1
      simp [this] at hmissing
    rw [record, ofMembers_written f (h room) hknown (hkeys ▸ hnodup) fun _ _ => List.not_mem_nil,
      within_succ]
    by_cases hfits : nestingMembers (written slots) ≤ room
    · rw [within_of_le hfits, within_of_le hfits]
      simp only [bind, Except.bind, ended, hfind]
      rfl
    · rw [within_of_lt (Nat.not_le.1 hfits), within_of_lt (Nat.not_le.1 hfits)]
      rfl

/-- A record whose fields are all optional is read as it was written. -/
theorem record_written_of_optional (f : Fields) {store : Nat → σ → Text → ρ → Decoded σ}
    {lift : Json → ρ} {skip : ρ → Option Flaw} {initial : σ} {slots : List (Slot σ)}
    (h : ∀ room, AgreesAll (store room) lift room initial slots)
    (hkeys : slots.map Slot.key = f.fields.map Prod.fst) (hnodup : (f.fields.map Prod.fst).Nodup)
    (hoptional : ∀ field ∈ f.fields, field.2 = false) (room : Nat) :
    record f store skip initial room
        (.members ((written slots).map fun m => (.ok m.1, lift m.2)) none) =
      within (nesting (.object (written slots))) room (putAll slots initial) := by
  refine record_written f h hkeys hnodup (fun field hfield hmust => ?_) room
  rw [hoptional field hfield] at hmust
  cases hmust

end Fields

/-! ## A fact carried through a record -/

section

variable {f : Fields} {skip : ρ → Option Flaw} {P : σ → Prop} {Q : ρ → Prop}

/-- All values among the parts of a reading. -/
def Parts.Forall (Q : ρ → Prop) : Parts ρ → Prop
  | .members ms _ => ∀ m ∈ ms, Q m.2
  | .items rs _ => ∀ r ∈ rs, Q r
  | .neither _ => True

theorem Parts.forall_of_forall (h : ∀ r, Q r) (parts : Parts ρ) : parts.Forall Q := by
  cases parts with
  | members ms halt => exact fun m _ => h m.2
  | items rs halt => exact fun r _ => h r
  | neither r => trivial

theorem ofMembers_preserves {store : σ → Text → ρ → Decoded σ}
    (hstore : ∀ state key r state', Q r → P state → store state key r = .ok state' → P state')
    {members : List (Key × ρ)} (hmembers : ∀ m ∈ members, Q m.2) {state state' : σ}
    {seen seen' : List Text} (hstate : P state)
    (h : f.ofMembers store skip state seen members = .ok (state', seen')) : P state' := by
  induction members generalizing state seen with
  | nil =>
    cases h
    exact hstate
  | cons member rest ih =>
    obtain ⟨hvalue, hrest⟩ := List.forall_mem_cons.1 hmembers
    obtain ⟨key, value⟩ := member
    cases key with
    | error flaw => cases h
    | ok key =>
      by_cases hknown : f.fields.any (·.1 == key) = true
      · by_cases hseen : key ∈ seen
        · simp only [Fields.ofMembers, Except.mapError, bind, Except.bind, hknown, hseen,
            if_true] at h
          cases h
        · rw [Fields.ofMembers_cons f hknown hseen] at h
          obtain ⟨next, hs, hnext⟩ := ok_of_bind h
          exact ih hrest (hstore state key value next hvalue hstate hs) hnext
      · simp only [Fields.ofMembers, Except.mapError, bind, Except.bind, hknown] at h
        cases hskip : skip value with
        | some flaw =>
          rw [hskip] at h
          cases h
        | none =>
          rw [hskip] at h
          exact ih hrest hstate h

theorem ofItems_preserves {store : σ → Text → ρ → Decoded σ} {halt : Option Halt}
    (hstore : ∀ state key r state', Q r → P state → store state key r = .ok state' → P state')
    {items : List ρ} (hitems : ∀ r ∈ items, Q r) {state state' : σ} {index : Nat}
    {fields : List (Text × Bool)} (hstate : P state)
    (h : f.ofItems store halt state index fields items = .ok state') : P state' := by
  induction items generalizing state index fields with
  | nil =>
    cases halt with
    | some halt => cases fields <;> cases h
    | none =>
      cases fields with
      | nil =>
        cases h
        exact hstate
      | cons field fields =>
        simp only [Fields.ofItems, ended, bind, Except.bind] at h
        split at h
        · cases h
        · cases h
          exact hstate
  | cons item rest ih =>
    obtain ⟨hitem, hrest⟩ := List.forall_mem_cons.1 hitems
    cases fields with
    | nil => cases h
    | cons field fields =>
      obtain ⟨next, hs, hnext⟩ := ok_of_bind h
      exact ih hrest (hstore state field.1 item next hitem hstate hs) hnext

/-- **What every store preserves holds of all that a record comes to.** -/
theorem record_preserves {store : Nat → σ → Text → ρ → Decoded σ} {initial state : σ} {room : Nat}
    {parts : Parts ρ} (hparts : parts.Forall Q) (hinitial : P initial)
    (hstore : ∀ state key r state', Q r → P state → store room state key r = .ok state' → P state')
    (h : record f store skip initial (room + 1) parts = .ok state) : P state := by
  cases parts with
  | neither r => cases h
  | items items halt => exact ofItems_preserves hstore hparts hinitial h
  | members members halt =>
    -- what stands behind the members only refuses the record
    obtain ⟨⟨last, seen⟩, hm, h⟩ := ok_of_bind h
    obtain ⟨-, -, h⟩ := ok_of_bind h
    have hlast : P last := ofMembers_preserves hstore hparts hinitial hm
    split at h
    · cases h
    · cases h
      exact hlast

/-- No record is read where no bracket may be opened. -/
theorem record_zero_ne_ok {store : Nat → σ → Text → ρ → Decoded σ} {initial state : σ}
    {parts : Parts ρ} : record f store skip initial 0 parts ≠ .ok state := by
  intro h
  cases parts <;> cases h

end

end Reading

end Treedown.Json
