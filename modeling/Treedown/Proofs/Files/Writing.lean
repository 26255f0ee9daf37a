import Mathlib.Data.List.Basic
import Treedown.Files
/-!
# Files — what a write changes

A text that is written to a path stands at one place afterwards, and at all
other places there is what there was before (`exists_place_of_writeText`). The
second half needs that a write makes no folders: a place is a folder as soon
as something stands below it, so the folders around the place that is
written must have been there. They have, since the path was walked through
them (`reached_walk`). The same path leads to the same place afterwards, so a
text that was written is read there (`readText_of_writeText`).
-/

namespace Treedown

namespace Files

variable {files after : Files} {place : Place}

/-! ## Putting an entry -/

section

variable {α β : Type} [BEq α] [LawfulBEq α] [DecidableEq α] {place : α}

/-- Where the entries under one key are left out, those under another one
stay. -/
theorem lookup_filter_ne {other : α} (h : other ≠ place) (entries : List (α × β)) :
    (entries.filter fun e => e.1 ≠ place).lookup other = entries.lookup other := by
  induction entries with
  | nil => rfl
  | cons e rest ih =>
    obtain ⟨key, value⟩ := e
    by_cases hkey : key = place
    · have hother : (other == key) = false := by
        rw [beq_eq_false_iff_ne, hkey]
        exact h
      rw [List.filter_cons_of_neg (by simpa using hkey), ih, List.lookup_cons, hother]
    · rw [List.filter_cons_of_pos (by simpa using hkey), List.lookup_cons, List.lookup_cons, ih]

theorem lookup_filter_self (entries : List (α × β)) :
    (entries.filter fun e => e.1 ≠ place).lookup place = none := by
  rw [List.lookup_eq_none_iff]
  intro e he
  have hne : e.1 ≠ place := by simpa using (List.mem_filter.1 he).2
  exact bne_iff_ne.2 fun heq => hne heq.symm

end

/-- An entry that is put somewhere stands there. -/
theorem at?_put_self (files : Files) (place : Place) (entry : Entry) :
    (files.put place entry).at? place = some entry := by
  rw [at?, put, List.lookup_append, lookup_filter_self, Option.none_or, List.lookup_cons,
    beq_self_eq_true]

/-- **What stands at other places stays**, if the folders around the place are
there already. -/
theorem at?_put_of_ne {other : Place} (entry : Entry) (h : other ≠ place)
    (hfolder : other <+: place → files.at? other = some .folder ∨ other.isGiven = true) :
    (files.put place entry).at? other = files.at? other := by
  have hlookup : (files.put place entry).entries.lookup other = files.entries.lookup other := by
    have hne : (other == place) = false := beq_eq_false_iff_ne.2 h
    rw [put, List.lookup_append, lookup_filter_ne h, List.lookup_cons, hne]
    exact Option.or_none
  rw [at?, at?, hlookup]
  cases hown : files.entries.lookup other with
  | some own => rfl
  | none =>
    by_cases hbelow : other <+: place
    · -- the place is below the other one, which is a folder before and after
      have hafter : (files.put place entry).entries.any (fun e => other.isPrefixOf e.1) = true := by
        refine List.any_eq_true.2 ⟨(place, entry), ?_, List.isPrefixOf_iff_prefix.2 hbelow⟩
        exact List.mem_append_right _ (List.mem_singleton_self _)
      have hbefore : (other.isGiven ||
          files.entries.any fun e => other.isPrefixOf e.1) = true := by
        rcases hfolder hbelow with hat | hgiven
        · rw [at?, hown] at hat
          by_contra hnot
          simp only [if_neg hnot] at hat
          cases hat
        · rw [hgiven, Bool.true_or]
      simp only
      rw [hafter, Bool.or_true, hbefore]
    · -- what is below the other place has not changed
      have hany : (files.put place entry).entries.any (fun e => other.isPrefixOf e.1) =
          files.entries.any fun e => other.isPrefixOf e.1 := by
        have hnot : other.isPrefixOf place = false := by
          rw [← Bool.not_eq_true, List.isPrefixOf_iff_prefix]
          exact hbelow
        rw [put, List.any_append, List.any_filter, List.any_cons, hnot, List.any_nil,
          Bool.or_false, Bool.or_false]
        congr 1
        funext e
        by_cases he : e.1 = place
        · rw [he, hnot, Bool.and_false]
        · rw [decide_eq_true he, Bool.true_and]
      simp only [hany]

/-! ## Walking a path -/

/-- **A place that was reached**: the places around it are folders, or such as
need not be listed. -/
def Reached (files : Files) (here : Place) : Prop :=
  ∀ other : Place, other <+: here → other ≠ here →
    files.at? other = some .folder ∨ other.isGiven = true

theorem Reached.concat {here : Place} (h : Reached files here) (hat : files.at? here = some .folder)
    (name : Text) : Reached files (here ++ [name]) := by
  intro other hinside hne
  rcases List.prefix_concat_iff.1 hinside with heq | hinside
  · exact absurd heq hne
  · by_cases hhere : other = here
    · exact .inl (hhere ▸ hat)
    · exact h other hinside hhere

theorem Reached.up {here : Place} (h : Reached files here) (hat : files.at? here = some .folder) :
    Reached files here.up := by
  cases hlast : here.getLast? with
  | none =>
    -- from the working folder the way goes to the one that it is in
    have hup : here.up = here ++ [Place.above] := by
      rw [Place.up, hlast, List.getLast?_eq_none_iff.1 hlast, List.nil_append]
    rw [hup]
    exact h.concat hat Place.above
  | some name =>
    by_cases habove : name = Place.above
    · have hup : here.up = here ++ [Place.above] := by simp only [Place.up, hlast, if_pos habove]
      rw [hup]
      exact h.concat hat Place.above
    by_cases htop : name = ['/']
    · have hup : here.up = here := by simp only [Place.up, hlast, if_neg habove, if_pos htop]
      rw [hup]
      exact h
    · have hup : here.up = here.dropLast := by
        simp only [Place.up, hlast, if_neg habove, if_neg htop]
      have hlen : here.dropLast.length < here.length := by
        obtain ⟨front, rfl⟩ := List.getLast?_eq_some_iff.1 hlast
        rw [List.dropLast_concat, List.length_append, List.length_singleton]
        omega
      intro other hinside _
      rw [hup] at hinside
      refine h other (hinside.trans (List.dropLast_prefix here)) fun heq => ?_
      have hle := hinside.length_le
      rw [heq] at hle
      omega

/-- **A walk reaches its end.** Each step goes through a folder. -/
theorem reached_walk {here : Place} {names : List Text} (h : Reached files here)
    (hwalk : files.walk here names = .ok place) : Reached files place := by
  induction names generalizing here with
  | nil =>
    rw [walk, Except.ok.injEq] at hwalk
    exact hwalk ▸ h
  | cons name rest ih =>
    rw [walk] at hwalk
    split at hwalk
    · cases hwalk
    · -- the walk is in a folder, and goes on from one around it or inside it
      rename_i hat
      by_cases hup : name = Place.above
      · rw [if_pos hup] at hwalk
        exact ih (h.up hat) hwalk
      · rw [if_neg hup] at hwalk
        exact ih (h.concat hat name) hwalk
    · cases hwalk

theorem reached_origin (files : Files) (path : Text) : Reached files (origin path) := by
  intro other hinside hne
  rw [origin] at hinside hne
  by_cases hroot : path.head? = some '/'
  · -- around the topmost folder there is the working folder, as its place is empty
    rw [if_pos hroot] at hinside hne
    rcases List.prefix_concat_iff.1 (show other <+: [] ++ [['/']] from hinside) with heq | hnil
    · exact absurd heq hne
    · rw [List.prefix_nil.1 hnil]
      exact .inr rfl
  · rw [if_neg hroot] at hinside hne
    exact absurd (List.prefix_nil.1 hinside) hne

/-- **What is found at a path** is what stands at the place that the path leads
to. A file is not found by a path that can only mean a folder. -/
theorem look_eq_ok_iff {path : Text} {entry : Option Entry} :
    files.look path = .ok (place, entry) ↔
      path ≠ [] ∧ files.walk (origin path) (names path) = .ok place ∧ files.at? place = entry ∧
        (∀ file ∈ entry, file ≠ .folder → meansFolder path = false) := by
  unfold look
  by_cases hempty : path.isEmpty = true
  · rw [if_pos hempty]
    exact iff_of_false (fun h => nomatch h) fun h => h.1 (List.isEmpty_iff.1 hempty)
  · have hne : path ≠ [] := fun hnil => hempty (List.isEmpty_iff.2 hnil)
    rw [if_neg hempty]
    cases hwalk : files.walk (origin path) (names path) with
    | error cause => exact iff_of_false (fun h => nomatch h) fun h => nomatch h.2.1
    | ok found =>
      match hat : files.at? found with
      | none | some .folder =>
        simp only [bind, Except.bind, pure, Except.pure, hat, Except.ok.injEq, Prod.mk.injEq]
        constructor
        · rintro ⟨rfl, rfl⟩
          exact ⟨hne, rfl, hat, by simp⟩
        · rintro ⟨-, rfl, rfl, -⟩
          exact ⟨rfl, hat.symm⟩
      | some (.text _) | some (.bytes _) =>
        simp only [bind, Except.bind, pure, Except.pure, hat]
        by_cases hfolder : meansFolder path = true
        · rw [if_pos hfolder]
          refine iff_of_false (fun h => nomatch h) ?_
          rintro ⟨-, hplace, rfl, hfile⟩
          obtain rfl := Except.ok.inj hplace
          rw [hfile _ hat (by simp)] at hfolder
          cases hfolder
        · rw [if_neg hfolder]
          simp only [Except.ok.injEq, Prod.mk.injEq]
          constructor
          · rintro ⟨rfl, rfl⟩
            exact ⟨hne, rfl, hat, fun _ _ _ => Bool.not_eq_true _ ▸ hfolder⟩
          · rintro ⟨-, rfl, rfl, -⟩
            exact ⟨rfl, hat.symm⟩

/-! ## Writing -/

/-- **A text that is written** is put at the place that its path leads to. No
folder stands there, and where nothing does, the path can mean a file. -/
theorem writeText_eq_ok_iff {path t : Text} : files.writeText path t = .ok after ↔
    ∃ place entry, files.look path = .ok (place, entry) ∧ entry ≠ some .folder ∧
      (entry = none → meansFolder path = false) ∧ after = files.put place (.text t) := by
  unfold writeText
  cases hlook : files.look path with
  | error cause => exact iff_of_false (fun h => nomatch h) fun ⟨_, _, h, _⟩ => nomatch h
  | ok found =>
    obtain ⟨place, entry⟩ := found
    have hput (hfile : entry ≠ some .folder) (hname : entry = none → meansFolder path = false) :
        (.ok (files.put place (.text t)) : Except FileError Files) = .ok after ↔
          ∃ place' entry', (place = place' ∧ entry = entry') ∧ entry' ≠ some .folder ∧
            (entry' = none → meansFolder path = false) ∧ after = files.put place' (.text t) := by
      constructor
      · intro h
        exact ⟨place, entry, ⟨rfl, rfl⟩, hfile, hname, (Except.ok.inj h).symm⟩
      · rintro ⟨_, _, ⟨rfl, rfl⟩, -, -, rfl⟩
        rfl
    simp only [bind, Except.bind, Except.ok.injEq, Prod.mk.injEq]
    match entry with
    | some .folder => simp
    | some (.text _) | some (.bytes _) => exact hput (by simp) (by simp)
    | none =>
      by_cases hfolder : meansFolder path = true
      · simp [hfolder]
      · simp only [if_neg hfolder]
        exact hput (by simp) fun _ => Bool.not_eq_true _ ▸ hfolder

/-- **A write changes one place.** The text stands there, and everything else is
as before. -/
theorem exists_place_of_writeText {path t : Text} (h : files.writeText path t = .ok after) :
    ∃ place entry, files.look path = .ok (place, entry) ∧ after.at? place = some (.text t) ∧
      ∀ other, other ≠ place → after.at? other = files.at? other := by
  obtain ⟨place, entry, hlook, -, -, rfl⟩ := writeText_eq_ok_iff.1 h
  have hreached : Reached files place :=
    reached_walk (reached_origin files path) (look_eq_ok_iff.1 hlook).2.1
  exact ⟨place, entry, hlook, at?_put_self files place _,
    fun other hne => at?_put_of_ne _ hne fun hinside => hreached other hinside hne⟩

/-! ## Reading what was written -/

/-- **A path that a text can be written to**: a file stands there, or nothing
does and the path can mean a file. -/
inductive Writable (files : Files) (path : Text) : Prop
  | file {place : Place} {entry : Entry} (h : files.look path = .ok (place, some entry))
      (hfile : entry ≠ .folder)
  | fresh {place : Place} (h : files.look path = .ok (place, none))
      (hname : meansFolder path = false)

/-- Whether a path can be written to has nothing to do with the text. -/
theorem exists_writeText_iff {path : Text} (t : Text) :
    (∃ after, files.writeText path t = .ok after) ↔ files.Writable path := by
  simp only [writeText_eq_ok_iff]
  constructor
  · rintro ⟨after, place, entry, hlook, hfile, hname, -⟩
    cases entry with
    | none => exact .fresh hlook (hname rfl)
    | some entry => exact .file hlook fun heq => hfile (congrArg some heq)
  · rintro (⟨hlook, hfile⟩ | ⟨hlook, hname⟩)
    · exact ⟨_, _, _, hlook, fun heq => hfile (Option.some.inj heq), (nomatch ·), rfl⟩
    · exact ⟨_, _, _, hlook, (nomatch ·), fun _ => hname, rfl⟩

/-- A walk that does not end in a folder goes through the same folders when an
entry is put at its end. -/
theorem walk_put {here : Place} {names : List Text} (entry : Entry)
    (hplace : files.at? place ≠ some .folder) {found : Place}
    (h : files.walk here names = .ok found) :
    (files.put place entry).walk here names = .ok found := by
  induction names generalizing here with
  | nil => exact h
  | cons name rest ih =>
    rw [walk] at h
    split at h
    · cases h
    · rename_i hat
      have hne : here ≠ place := fun heq => hplace (heq ▸ hat)
      rw [walk, at?_put_of_ne entry hne fun _ => .inl hat, hat]
      by_cases hup : name = Place.above
      · rw [if_pos hup] at h
        simp only [if_pos hup]
        exact ih h
      · rw [if_neg hup] at h
        simp only [if_neg hup]
        exact ih h
    · cases h

/-- **A text that was written is read again.** -/
theorem readText_of_writeText {path t : Text} (h : files.writeText path t = .ok after) :
    after.readText path = .ok t := by
  obtain ⟨place, entry, hlook, hfile, hname, rfl⟩ := writeText_eq_ok_iff.1 h
  obtain ⟨hne, hwalk, hat, hmeans⟩ := look_eq_ok_iff.1 hlook
  have hfolder : meansFolder path = false := by
    cases entry with
    | none => exact hname rfl
    | some file => exact hmeans file rfl fun heq => hfile (congrArg some heq)
  have hagain : (files.put place (.text t)).look path = .ok (place, some (.text t)) :=
    look_eq_ok_iff.2 ⟨hne, walk_put _ (hat ▸ hfile) hwalk, at?_put_self files place _,
      fun _ _ _ => hfolder⟩
  rw [readText, hagain]
  rfl

end Files

end Treedown
