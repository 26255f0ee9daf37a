import Treedown.Proofs.Node.Depth
/-!
# Nodes — the JSON form of a tree

Encoding a tree and decoding its text gives the tree back, as long as the
text nests no deeper than a decoder follows (`decode_encode_eq_within`). A
tree that came out of a text, however it was spelled, can always be written
within that limit, so its encoding is a normal form of the text
(`decode_encode_of_decode`).
-/

namespace Treedown

open Json (Decoded Reading Whole nesting)

/-! ## What is printed is read back -/

namespace Json

theorem wholeItems_of_forall {items : List Json} (h : ∀ item ∈ items, Whole item) :
    WholeItems items := by
  induction items with
  | nil => trivial
  | cons item rest ih =>
    obtain ⟨hitem, hrest⟩ := List.forall_mem_cons.1 h
    exact ⟨hitem, ih hrest⟩

theorem wholeMembers_append {ms ns : List (Text × Json)} :
    WholeMembers (ms ++ ns) ↔ WholeMembers ms ∧ WholeMembers ns := by
  induction ms with
  | nil => simp [WholeMembers]
  | cons m rest ih => simp only [List.cons_append, WholeMembers, ih, and_assoc]

theorem whole_string (s : Text) : Whole (.string s) := trivial

theorem whole_texts (ts : List Text) : Whole (texts ts) := by
  rw [texts, Whole]
  refine wholeItems_of_forall fun item hitem => ?_
  obtain ⟨s, -, rfl⟩ := List.mem_map.1 hitem
  trivial

theorem whole_count (n : UInt64) : Whole (count n) :=
  n.toNat_lt

theorem whole_option {α : Type} {encode : α → Json} (h : ∀ x, Whole (encode x)) (x : Option α) :
    Whole (option encode x) := by
  cases x with
  | none => trivial
  | some x => exact h x

theorem wholeMembers_member? {α : Type} (key : Text) {encode : α → Json}
    (h : ∀ x, Whole (encode x)) (x : Option α) : WholeMembers (member? key encode x) := by
  cases x with
  | none => trivial
  | some x => exact ⟨h x, trivial⟩

theorem wholeMembers_nonEmptyMember {α : Type} (key : Text) {encode : List α → Json} {xs : List α}
    (h : Whole (encode xs)) : WholeMembers (nonEmptyMember key encode xs) := by
  cases xs with
  | nil => trivial
  | cons x xs => exact ⟨h, trivial⟩

end Json

theorem Origin.whole_toJson (o : Origin) : Whole o.toJson :=
  ⟨Json.whole_option Json.whole_string _, Json.whole_option Json.whole_count _,
    Json.whole_option Json.whole_texts _, trivial⟩

theorem Grid.whole_toJson (g : Grid) : Whole g.toJson := by
  refine ⟨Json.whole_option Json.whole_texts _, ?_, Json.whole_option Json.whole_count _,
    Json.whole_option Origin.whole_toJson _, trivial⟩
  rw [Whole]
  refine Json.wholeItems_of_forall fun item hitem => ?_
  obtain ⟨row, -, rfl⟩ := List.mem_map.1 hitem
  exact Json.whole_texts row

theorem Attributes.whole_encodeEntries (entries : List (Text × Text)) :
    Whole (encodeEntries entries) := by
  rw [encodeEntries, Whole]
  induction entries with
  | nil => trivial
  | cons entry rest ih => exact ⟨trivial, ih⟩

namespace Node

mutual

/-- All numbers of the JSON form of a tree are whole ones of 64 bits. -/
theorem whole_toJson (n : Node) : Whole n.toJson := by
  match n with
  | .mk kind f children =>
    have hchildren : Whole (.list (toJsonAll children)) := whole_toJsonAll children
    have htext := Json.whole_string
    rw [toJson, Whole, members]
    simp only [Json.wholeMembers_append]
    exact ⟨⟨⟨⟨⟨⟨⟨⟨⟨⟨⟨⟨htext _, trivial⟩, Json.wholeMembers_member? _ htext _⟩,
      Json.wholeMembers_member? _ htext _⟩, Json.wholeMembers_member? _ htext _⟩,
      Json.wholeMembers_nonEmptyMember _ (Json.whole_texts _)⟩, ⟨Json.whole_count _, trivial⟩⟩,
      Json.wholeMembers_member? _ htext _⟩, Json.wholeMembers_member? _ htext _⟩,
      Json.wholeMembers_member? _ htext _⟩,
      Json.wholeMembers_nonEmptyMember _ (Attributes.whole_encodeEntries _)⟩,
      Json.wholeMembers_nonEmptyMember _ hchildren⟩,
      Json.wholeMembers_member? _ Grid.whole_toJson _⟩

theorem whole_toJsonAll (nodes : List Node) : Json.WholeItems (toJsonAll nodes) := by
  match nodes with
  | [] => trivial
  | node :: rest => exact ⟨whole_toJson node, whole_toJsonAll rest⟩

end

/-- **An encoded tree is decoded if its text nests no deeper than the limit**,
and is malformed otherwise. -/
theorem decode_encode_eq_within (n : Node) :
    decode n.encode = Json.within (Json.textNesting n.encode) Json.depthLimit n := by
  rw [decode, Json.decode, encode, Json.read_print _ (whole_toJson n),
    Json.textNesting_print (whole_toJson n)]
  simp only
  rw [ofReading_toJson]
  by_cases h : nesting n.toJson ≤ Json.depthLimit
  · rw [Json.within_of_le h]
    rfl
  · rw [Json.within_of_lt (Nat.not_le.1 h)]
    rfl

/-- A text that could be decoded has a tree that can be written within the
limit. -/
theorem textNesting_encode_le_of_decode {t : Text} {n : Node} (h : decode t = .ok n) :
    Json.textNesting n.encode ≤ Json.depthLimit := by
  rw [encode, Json.textNesting_print (whole_toJson n)]
  -- a limit of 127 brackets is an odd number of them
  exact nesting_le_of_ofReading _ rfl (Json.ok_of_decode h)

/-- **A decoded tree is encoded and decoded without loss.** -/
theorem decode_encode_of_decode {t : Text} {n : Node} (h : decode t = .ok n) :
    decode n.encode = .ok n := by
  rw [decode_encode_eq_within]
  exact Json.within_of_le (textNesting_encode_le_of_decode h)

/-- **The JSON form of a tree is faithful, and a normal form.** Whatever
text a tree was decoded from, its encoding is decoded to the same tree, so
that encoding once more changes nothing. And every tree is decoded from its
encoding, unless that nests deeper than 127 lists and objects. -/
theorem encode_faithful_and_normal :
    (∀ t n, decode t = .ok n → decode n.encode = .ok n) ∧
      (∀ t t', (decode t).map encode = .ok t' → (decode t').map encode = .ok t') ∧
      ∀ n : Node, decode n.encode =
        if Json.textNesting n.encode ≤ 127 then .ok n else .error (.flaw .malformed) := by
  refine ⟨fun t n h => decode_encode_of_decode h, fun t t' h => ?_, decode_encode_eq_within⟩
  obtain ⟨n, hn, rfl⟩ := Json.ok_of_map h
  rw [decode_encode_of_decode hn]
  rfl

/-- A node in an unusual spelling: its kind stands last and is written with
an escape, a member is unknown, and an attribute holds a list. -/
def oddText : Text :=
  "\x7b\"x\":[],\"attributes\":\x7b\"a\":[2]\x7d,\"kind\":\"b\\u006fx\"\x7d".toList

/-- The same node as it is encoded. -/
def evenText : Text :=
  "\x7b\"kind\":\"box\",\"level\":0,\"attributes\":\x7b\"a\":\"[2]\"\x7d\x7d".toList

/-- Both spellings are decoded to one node. -/
theorem encode_faithful_and_normal_oddText :
    (decode oddText).map encode = .ok evenText ∧ (decode evenText).map encode = .ok evenText ∧
      decode evenText = decode oddText := by
  have heven : ((decode oddText).map encode).toOption = some evenText := by decide +kernel
  cases hn : decode oddText with
  | error fault =>
    rw [hn] at heven
    cases heven
  | ok n =>
    rw [hn] at heven
    have hencode : n.encode = evenText := Option.some.inj heven
    have hodd : (decode oddText).map encode = .ok evenText := by
      rw [hn, ← hencode]
      rfl
    refine ⟨hn ▸ hodd, encode_faithful_and_normal.2.1 oddText evenText hodd, ?_⟩
    rw [← hencode]
    exact encode_faithful_and_normal.1 oddText n hn

end Node

end Treedown
