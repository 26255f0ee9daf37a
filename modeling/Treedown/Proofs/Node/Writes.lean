import Mathlib.Data.List.Forall2
import Treedown.Proofs.Node.Attributes
import Treedown.Proofs.Node.RoundTrip
/-!
# Nodes — attributes as what was written

Attributes come about by writes: one by one under names or numbers, from pairs,
or from the members of a JSON object (`Written`). All of these are writing the
same pairs in the same order (`eq_ofPairs_of_written`). So the names stand in
the order in which they were written first, each with the value that was
written last (`insertionOrdered_of_written`).
-/

namespace Treedown

open Json (Reading)

/-- A text is decoded if the value in front is, and nothing follows. -/
theorem Json.decode_eq_ok_iff {α : Type} {f : Nat → Reading → Json.Decoded α} {t : Text} {x : α} :
    Json.decode f t = .ok x ↔
      f Json.depthLimit (Json.read t).1 = .ok x ∧ (Json.read t).2 = false := by
  rw [Json.decode]
  obtain ⟨r, more⟩ := Json.read t
  cases hvalue : f Json.depthLimit r with
  | error fault => simp [bind, Except.bind, hvalue]
  | ok value => cases more <;> simp [bind, Except.bind, pure, Except.pure, hvalue]

namespace Attributes

/-! ## Writes -/

/-- A member of an object writes a pair. -/
def WritesPair (room : Nat) (member : Json.Key × Reading) (pair : Text × Text) : Prop :=
  member.1 = .ok pair.1 ∧ ∃ value, member.2.asJson room = .ok value ∧ textOf value = pair.2

/-- **The pairs that the members of a JSON object write**, in their order and
with repeated names. -/
def ObjectOf (t : Text) (pairs : List (Text × Text)) : Prop :=
  ∃ members, Json.read t = (.object members none, false) ∧
    List.Forall₂ (WritesPair (Json.depthLimit - 1)) members pairs

/-- **Attributes that have come about by some writes**, the first one in
front. -/
inductive Written : List (Text × Text) → Attributes → Prop
  | empty : Written [] .empty
  | set {writes : List (Text × Text)} {a : Attributes} (key value : Text) :
      Written writes a → Written (writes ++ [(key, value)]) (a.set key value)
  | setPositional {writes : List (Text × Text)} {a : Attributes} (index : Nat) (value : Text) :
      Written writes a →
        Written (writes ++ [(Text.ofNat index, value)]) (a.setPositional index value)
  | ofPairs (pairs : List (Text × Text)) : Written pairs (.ofPairs pairs)
  | decode {t : Text} {pairs : List (Text × Text)} {a : Attributes} :
      ObjectOf t pairs → Attributes.decode t = .ok a → Written pairs a

/-- The last of several writes under its name. -/
def LastWrite (writes : List (Text × Text)) (p : Text × Text) : Prop :=
  ∃ before after, writes = before ++ p :: after ∧ p.1 ∉ after.map Prod.fst

/-- **Attributes hold what was written**: the names in the order of their first
write, and under each of them the value of its last one. -/
structure InsertionOrdered (writes : List (Text × Text)) (a : Attributes) : Prop where
  /-- Every name stands once. -/
  nodup : a.keys.Nodup
  mem_keys : ∀ key, key ∈ a.keys ↔ key ∈ writes.map Prod.fst
  order : a.keys.Pairwise fun key later =>
    (writes.map Prod.fst).idxOf key < (writes.map Prod.fst).idxOf later
  mem_entries : ∀ p, p ∈ a.entries ↔ LastWrite writes p
  get? : ∀ key value, a.get? key = some value ↔ LastWrite writes (key, value)
  positional? : ∀ index value,
    a.positional? index = some value ↔ LastWrite writes (Text.ofNat index, value)
  contains : ∀ key, a.contains key = true ↔ key ∈ writes.map Prod.fst
  nonEmpty? : ∀ key value,
    a.nonEmpty? key = some value ↔ LastWrite writes (key, value) ∧ value ≠ []

/-- **A write is seen under its own name only.** -/
structure LeavesOthers (a : Attributes) (key value : Text) : Prop where
  get? : ∀ other, other ≠ key → (a.set key value).get? other = a.get? other
  contains : ∀ other, other ≠ key → (a.set key value).contains other = a.contains other
  nonEmpty? : ∀ other, other ≠ key → (a.set key value).nonEmpty? other = a.nonEmpty? other
  positional? : ∀ index, Text.ofNat index ≠ key →
    (a.set key value).positional? index = a.positional? index

variable {a : Attributes} {key value : Text} {writes pairs : List (Text × Text)} {t : Text}
variable {room : Nat}

/-! ## From a JSON object -/

/-- The members of an object write one after the other. -/
theorem ofMembers_eq_ok_iff {members : List (Json.Key × Reading)} {done : Attributes} :
    ofMembers room done members = .ok a ↔
      ∃ pairs, List.Forall₂ (WritesPair room) members pairs ∧
        a = pairs.foldl (fun a p => a.set p.1 p.2) done := by
  induction members generalizing done with
  | nil =>
    constructor
    · rintro h
      exact ⟨[], .nil, (Except.ok.inj h).symm⟩
    · rintro ⟨pairs, hpairs, rfl⟩
      cases hpairs
      rfl
  | cons member rest ih =>
    obtain ⟨key, value⟩ := member
    constructor
    · intro h
      rw [ofMembers] at h
      obtain ⟨name, hname, h⟩ := Json.ok_of_bind h
      obtain ⟨json, hjson, h⟩ := Json.ok_of_bind h
      obtain ⟨pairs, hpairs, rfl⟩ := ih.1 h
      cases key with
      | error flaw => cases hname
      | ok k =>
        obtain rfl := Except.ok.inj hname
        exact ⟨(k, textOf json) :: pairs, .cons ⟨rfl, json, hjson, rfl⟩ hpairs, rfl⟩
    · rintro ⟨pairs, hpairs, rfl⟩
      cases hpairs with
      | @cons _ p _ pairs hfirst hrest =>
        obtain ⟨name, text⟩ := p
        obtain ⟨rfl, json, hjson, rfl⟩ := hfirst
        simp only [ofMembers, Except.mapError, bind, Except.bind, hjson]
        exact ih.2 ⟨pairs, hrest, rfl⟩

theorem ofReading_eq_ok_iff {r : Reading} :
    ofReading (room + 1) r = .ok a ↔
      ∃ members, r = .object members none ∧ ofMembers room .empty members = .ok a := by
  constructor
  · intro h
    cases r with
    | object members halt =>
      obtain ⟨done, hdone, h⟩ := Json.ok_of_bind h
      obtain ⟨_, hhalt, h⟩ := Json.ok_of_bind h
      cases halt with
      | none => exact ⟨members, rfl, hdone.trans h⟩
      | some halt => cases hhalt
    | _ => cases h
  · rintro ⟨members, rfl, h⟩
    simp only [ofReading, h, bind, Except.bind, Reading.ended, pure, Except.pure]

/-- **A JSON text is decoded just if it is an object whose members write
pairs**, and then to what they write. -/
theorem decode_eq_ok_iff : decode t = .ok a ↔ ∃ pairs, ObjectOf t pairs ∧ a = ofPairs pairs := by
  have hroom : ofReading Json.depthLimit (Json.read t).1 = .ok a ↔ _ :=
    @ofReading_eq_ok_iff a (Json.depthLimit - 1) _
  rw [decode, Json.decode_eq_ok_iff, hroom]
  constructor
  · rintro ⟨⟨members, hread, hmembers⟩, hmore⟩
    obtain ⟨pairs, hpairs, rfl⟩ := ofMembers_eq_ok_iff.1 hmembers
    exact ⟨pairs, ⟨members, Prod.ext hread hmore, hpairs⟩, rfl⟩
  · rintro ⟨pairs, ⟨members, hread, hpairs⟩, rfl⟩
    rw [hread]
    exact ⟨⟨members, rfl, ofMembers_eq_ok_iff.2 ⟨pairs, hpairs, rfl⟩⟩, rfl⟩

/-- Every row of pairs is that of an object, also one with repeated names. -/
theorem objectOf_print (pairs : List (Text × Text)) :
    ObjectOf (encodeEntries pairs).print pairs := by
  refine ⟨_, Json.read_print _ (whole_encodeEntries pairs), ?_⟩
  rw [Json.memberReadings_eq_map, List.map_map, List.forall₂_map_left_iff]
  exact List.forall₂_same.2 fun p _ => ⟨rfl, .string p.2, rfl, rfl⟩

/-- **All ways of writing come to the same.** -/
theorem eq_ofPairs_of_written (h : Written writes a) : a = ofPairs writes := by
  induction h with
  | empty => rfl
  | set key value _ ih => rw [ofPairs_concat, ih]
  | setPositional index value _ ih => rw [ofPairs_concat, ih, setPositional]
  | ofPairs pairs => rfl
  | @decode t pairs a hpairs hdecode =>
    have hvalue : Attributes.decode t = .ok (.ofPairs pairs) :=
      decode_eq_ok_iff.2 ⟨pairs, hpairs, rfl⟩
    exact Except.ok.inj (hdecode.symm.trans hvalue)

/-! ## What is held -/

/-- What is found is the last write. -/
theorem get?_ofPairs_eq_some_iff :
    (ofPairs writes).get? key = some value ↔ LastWrite writes (key, value) := by
  rw [get?_ofPairs, List.lookup_eq_some_iff]
  constructor
  · rintro ⟨after, before, heq, hafter⟩
    refine ⟨before.reverse, after.reverse, ?_, fun hmem => ?_⟩
    · rw [← List.reverse_reverse writes, heq]
      simp
    · obtain ⟨p, hp, hkey⟩ := List.mem_map.1 hmem
      have hne := hafter p (List.mem_reverse.1 hp)
      rw [hkey, bne_self_eq_false] at hne
      cases hne
  · rintro ⟨before, after, rfl, hafter⟩
    refine ⟨after.reverse, before.reverse, by simp, fun p hp => bne_iff_ne.2 ?_⟩
    rintro rfl
    exact hafter (List.mem_map.2 ⟨p, List.mem_reverse.1 hp, rfl⟩)

/-- The entries are what is found. -/
theorem mem_entries_iff : (key, value) ∈ a.entries ↔ a.get? key = some value := by
  rw [Attributes.get?, List.lookup_eq_some_iff]
  constructor
  · intro hmem
    obtain ⟨before, after, heq⟩ := List.mem_iff_append.1 hmem
    refine ⟨before, after, heq, fun p hp => bne_iff_ne.2 ?_⟩
    rintro rfl
    -- the name would stand twice
    have hnodup := a.keys_nodup
    rw [heq, List.map_append, List.nodup_append] at hnodup
    exact hnodup.2.2 p.1 (List.mem_map_of_mem hp) p.1 List.mem_cons_self rfl
  · rintro ⟨before, after, heq, -⟩
    rw [heq]
    exact List.mem_append_right before List.mem_cons_self

theorem mem_keys_ofPairs : key ∈ (ofPairs writes).keys ↔ key ∈ writes.map Prod.fst := by
  induction writes using List.reverseRecOn with
  | nil => rfl
  | append_singleton writes p ih =>
    rw [ofPairs_concat, keys_set, List.map_append, List.mem_append, ← ih]
    by_cases h : p.1 ∈ (ofPairs writes).keys
    · rw [if_pos h]
      simp only [List.map_cons, List.map_nil, List.mem_singleton]
      refine ⟨.inl, fun hmem => hmem.elim id ?_⟩
      rintro rfl
      exact h
    · rw [if_neg h, List.mem_append]
      rfl

/-- **The names stand in the order of their first write.** -/
theorem pairwise_idxOf_keys_ofPairs (writes : List (Text × Text)) :
    (ofPairs writes).keys.Pairwise fun key later =>
      (writes.map Prod.fst).idxOf key < (writes.map Prod.fst).idxOf later := by
  induction writes using List.reverseRecOn with
  | nil => exact .nil
  | append_singleton writes p ih =>
    have hbefore : ∀ key ∈ (ofPairs writes).keys,
        ((writes ++ [p]).map Prod.fst).idxOf key = (writes.map Prod.fst).idxOf key := by
      intro key hkey
      rw [List.map_append, List.idxOf_append_of_mem (mem_keys_ofPairs.1 hkey)]
    have hold : (ofPairs writes).keys.Pairwise fun key later =>
        ((writes ++ [p]).map Prod.fst).idxOf key < ((writes ++ [p]).map Prod.fst).idxOf later :=
      ih.imp_of_mem fun hkey hlater hlt => by rwa [hbefore _ hkey, hbefore _ hlater]
    rw [ofPairs_concat, keys_set]
    by_cases h : p.1 ∈ (ofPairs writes).keys
    · rwa [if_pos h]
    · rw [if_neg h, List.pairwise_append]
      refine ⟨hold, List.pairwise_singleton .., fun key hkey later hlater => ?_⟩
      -- a new name is written behind all writes of the others
      obtain rfl := List.mem_singleton.1 hlater
      have hlt := List.idxOf_lt_length_of_mem (mem_keys_ofPairs.1 hkey)
      rw [hbefore key hkey, List.map_append,
        List.idxOf_append_of_notMem fun hmem => h (mem_keys_ofPairs.2 hmem)]
      omega

theorem insertionOrdered_ofPairs (writes : List (Text × Text)) :
    InsertionOrdered writes (ofPairs writes) where
  nodup := (ofPairs writes).keys_nodup
  mem_keys _ := mem_keys_ofPairs
  order := pairwise_idxOf_keys_ofPairs writes
  mem_entries p := mem_entries_iff.trans get?_ofPairs_eq_some_iff
  get? _ _ := get?_ofPairs_eq_some_iff
  positional? _ _ := get?_ofPairs_eq_some_iff
  contains _ := mem_keys_iff.symm.trans mem_keys_ofPairs
  nonEmpty? key value := by
    rw [Attributes.nonEmpty?, Text.unlessEmpty, Option.filter_eq_some_iff, get?_ofPairs_eq_some_iff]
    simp

/-! ## One write -/

theorem leavesOthers (a : Attributes) (key value : Text) : LeavesOthers a key value := by
  have hget : ∀ other, other ≠ key → (a.set key value).get? other = a.get? other :=
    fun other hne => by rw [get?_set, if_neg hne]
  exact
    { get? := hget
      contains := fun other hne => congrArg Option.isSome (hget other hne)
      nonEmpty? := fun other hne => congrArg Text.unlessEmpty (hget other hne)
      positional? := fun index hne => hget _ hne }

/-- Numbers have different names. -/
theorem ofNat_injective : Function.Injective Text.ofNat :=
  Function.LeftInverse.injective fun _ => Nat.ofDigitChars_ten_toDigits

/-- **Attributes are decoded from their JSON text.** -/
theorem decode_print_toJson (a : Attributes) : decode a.toJson.print = .ok a := by
  rw [decode, Json.decode, toJson, Json.read_print _ (whole_encodeEntries _)]
  simp only [ofReading_encodeEntries, nesting_encodeEntries]
  rfl

/-- Attributes are what results from writing their entries. -/
theorem ofPairs_entries (a : Attributes) : ofPairs a.entries = a := by
  have hentries : decode a.toJson.print = .ok (ofPairs a.entries) :=
    decode_eq_ok_iff.2 ⟨a.entries, objectOf_print a.entries, rfl⟩
  exact Except.ok.inj (hentries.symm.trans (decode_print_toJson a))

/-! ## Together -/

/-- **Attributes are a map in the order of writing.** However they have come
about, the names stand in the order of their first write and hold what was
written last, and all look-ups answer so. One more write is seen under its own
name only, and so is one under a number. Writing the entries anew, or decoding
the JSON text of the attributes, gives the same entries in the same order. And
a JSON text is decoded just if it is an object whose members write pairs, and
then by writing these. -/
theorem insertionOrdered_of_written (h : Written writes a) :
    InsertionOrdered writes a ∧
      (∀ key value, LeavesOthers a key value) ∧
      (∀ index other value, other ≠ index →
        (a.setPositional index value).positional? other = a.positional? other) ∧
      ofPairs a.entries = a ∧
      decode a.toJson.print = .ok a ∧
      ∀ t a', decode t = .ok a' ↔ ∃ pairs, ObjectOf t pairs ∧ a' = ofPairs pairs := by
  refine ⟨?_, leavesOthers a, fun index other value hne => ?_, ofPairs_entries a,
    decode_print_toJson a, fun t a' => decode_eq_ok_iff⟩
  · rw [eq_ofPairs_of_written h]
    exact insertionOrdered_ofPairs writes
  · exact (leavesOthers a _ value).positional? other fun heq => hne (ofNat_injective heq)

/-- The text of an object with a repeated name and values that are no
texts. -/
def repeatedName : Text :=
  "\x7b\"1\": \"a\", \"alt\": null, \"1\": true\x7d"

/-- What its members write. -/
def repeatedWrites : List (Text × Text) :=
  [("1", "a"), ("alt", []), ("1", "true")]

/-- The attributes from it, and three writes behind: one under a number that is
written again as a name, and one under a name of the object. -/
def mixedWrites : Attributes :=
  (((ofPairs repeatedWrites).setPositional 2 "x").set "alt" "y").set "2" "z"

/-- All that was written. -/
def mixedHistory : List (Text × Text) :=
  [("1", "a"), ("alt", []), ("1", "true"), ("2", "x"), ("alt", "y"), ("2", "z")]

theorem insertionOrdered_of_written_mixedWrites :
    ObjectOf repeatedName repeatedWrites ∧ Written mixedHistory mixedWrites ∧
      LastWrite mixedHistory ("alt", "y") ∧
      mixedWrites.entries = ([("1", "true"), ("alt", "y"), ("2", "z")] : List (Text × Text)) ∧
      decode mixedWrites.toJson.print = .ok mixedWrites := by
  have hread : Json.read repeatedName =
      (.object [(.ok "1".toList, .string (.ok "a".toList)), (.ok "alt".toList, .null),
        (.ok "1".toList, .bool true)] none, false) := by cbv
  have hobject : ObjectOf repeatedName repeatedWrites :=
    ⟨_, hread, .cons ⟨rfl, .string "a", rfl, rfl⟩ (.cons ⟨rfl, .null, rfl, rfl⟩
      (.cons ⟨rfl, .bool true, rfl, rfl⟩ .nil))⟩
  have hdecoded : Written repeatedWrites (ofPairs repeatedWrites) :=
    .decode hobject (decode_eq_ok_iff.2 ⟨_, hobject, rfl⟩)
  have hwritten : Written mixedHistory mixedWrites :=
    ((hdecoded.setPositional 2 "x").set "alt" "y").set "2" "z"
  obtain ⟨hordered, -, -, -, hdecode, -⟩ := insertionOrdered_of_written hwritten
  exact ⟨hobject, hwritten, (hordered.mem_entries ("alt", "y")).1 (by decide), by decide, hdecode⟩

end Attributes

end Treedown
