import ClaimTracker.Proofs.Json.Records

/-!
# Changes of no consequence

An object says the same after its members have been reordered, after a member of another name has been
put in, and after a member has been given another name of its field. So does a list or record of which
one value has been changed in such a way. An object that has two members of one field says nothing, and
nothing does what holds it where a value is read.
-/

namespace ClaimTracker.Json

open Reader

section Lists

variable {α : Type} {read : Reader α} {before after : List Node} {n n' : Node}

inductive ItemChanges (change : Node → Node → Prop) : Node → Node → Prop
  | mk {before after : List Node} {n n' : Node} (h : change n n') :
    ItemChanges change (.array (before ++ n :: after)) (.array (before ++ n' :: after))

inductive HasItem (p : Node → Prop) : Node → Prop
  | mk {before after : List Node} {n : Node} (h : p n) : HasItem p (.array (before ++ n :: after))

lemma readsEach_replace_iff (alike : Alike read n n') {values : List α} :
    ReadsEach read (before ++ n :: after) values ↔ ReadsEach read (before ++ n' :: after) values := by
  induction before generalizing values with
  | nil => simp only [List.nil_append, ReadsEach, List.forall₂_cons_left_iff, alike _]
  | cons m before ih =>
    simp only [ReadsEach] at ih
    simp only [List.cons_append, ReadsEach, List.forall₂_cons_left_iff, ih]

lemma ItemChanges.alike {change : Node → Node → Prop} (decides : Decides read)
    (inner : ∀ n n', change n n' → Alike read n n') (h : ItemChanges change n n') :
    Alike (list read) n n' := by
  intro values
  obtain ⟨h⟩ := h
  rw [reads_list_iff decides, reads_list_iff decides, readsEach_replace_iff (inner _ _ h)]

lemma HasItem.unreadable {p : Node → Prop} (decides : Decides read)
    (inner : ∀ n, p n → ∀ a, ¬ Reads read n.tokens a) (h : HasItem p n) (values : List α) :
    ¬ Reads (list read) n.tokens values := by
  obtain ⟨h⟩ := h
  rw [reads_list_iff decides]
  intro each
  obtain ⟨a, read⟩ := each.exists_reads (List.mem_append_right _ List.mem_cons_self)
  exact inner _ h a read

end Lists

namespace Form

variable {κ : Type} {T : κ → Type} [DecidableEq κ] {form : Form κ T} {n n' : Node}

/-- One change to a record: of the order of its members, of what else there is among them, of the name
that a field goes by, or within the value of a field. -/
inductive Changes (form : Form κ T) (within : κ → Node → Node → Prop) : Node → Node → Prop
  | reorder {members members' : List Node.Member} (order : members.Perm members') :
    Changes form within (.object members) (.object members')
  | insert {before after : List Node.Member} {name : String} {n : Node}
    (unknown : form.field? name = none) :
    Changes form within (.object (before ++ after)) (.object (before ++ (some name, n) :: after))
  | rename {before after : List Node.Member} {name name' : String} {n : Node}
    (same : form.field? name = form.field? name') :
    Changes form within (.object (before ++ (some name, n) :: after))
      (.object (before ++ (some name', n) :: after))
  | value {before after : List Node.Member} {name : String} {n n' : Node} {k : κ}
    (known : form.field? name = some k) (h : within k n n') :
    Changes form within (.object (before ++ (some name, n) :: after))
      (.object (before ++ (some name, n') :: after))
  | item {before after : List Node} {n n' : Node} {k : κ}
    (place : form.fields[before.length]? = some k) (h : within k n n') :
    Changes form within (.array (before ++ n :: after)) (.array (before ++ n' :: after))

/-- There are two members of one field in an object that is read as a record, or in a value of one of
its fields. -/
inductive Repeats (form : Form κ T) (within : κ → Node → Prop) : Node → Prop
  | here {before between after : List Node.Member} {name name' : String} {n n' : Node} {k : κ}
    (known : form.field? name = some k) (known' : form.field? name' = some k) :
    Repeats form within (.object (before ++ (some name, n) :: between ++ (some name', n') :: after))
  | value {before after : List Node.Member} {name : String} {n : Node} {k : κ}
    (known : form.field? name = some k) (h : within k n) :
    Repeats form within (.object (before ++ (some name, n) :: after))
  | item {before after : List Node} {n : Node} {k : κ}
    (place : form.fields[before.length]? = some k) (h : within k n) :
    Repeats form within (.array (before ++ n :: after))

lemma finds_object_iff {members : List Node.Member} {v : Values T} :
    form.Finds (.object members) v ↔ form.Adds (fun _ => none) members v :=
  ⟨fun | .object h => h, .object⟩

lemma finds_array_iff {items : List Node} {v : Values T} :
    form.Finds (.array items) v ↔ form.InOrder form.fields (fun _ => none) items v :=
  ⟨fun | .array h => h, .array⟩

/-- A changed record is read alike if the changed values of fields are. -/
lemma Changes.alike {within : κ → Node → Node → Prop} (decides : form.Decides)
    (inner : ∀ k n n', within k n n' → Alike (form.read k) n n') (h : form.Changes within n n') :
    Alike form.record n n' := by
  refine alike_of_finds decides fun v => ?_
  cases h with
  | reorder order => rw [finds_object_iff, finds_object_iff, adds_iff_of_perm order]
  | insert unknown => rw [finds_object_iff, finds_object_iff, adds_insert_iff unknown]
  | rename same =>
    rw [finds_object_iff, finds_object_iff, adds_replace_iff same fun _ _ _ => Iff.rfl]
  | value known h =>
    rw [finds_object_iff, finds_object_iff, adds_replace_iff rfl]
    intro j known'
    rw [known] at known'
    cases known'
    exact inner _ _ _ h
  | item place h =>
    rw [finds_array_iff, finds_array_iff, inOrder_replace_iff place (inner _ _ _ h)]

/-- A record is not read from what has two members of a field. -/
lemma Repeats.unreadable {within : κ → Node → Prop} (decides : form.Decides)
    (inner : ∀ k n, within k n → ∀ a, ¬ Reads (form.read k) n.tokens a) (h : form.Repeats within n)
    (content : (k : κ) → T k) : ¬ Reads form.record n.tokens content := by
  rw [reads_record_iff decides]
  rintro ⟨v, found, -⟩
  cases h with
  | here known known' => exact not_adds_of_repeated known known' (finds_object_iff.mp found)
  | value known h => exact not_adds_of_unreadable known (inner _ _ h) (finds_object_iff.mp found)
  | item place h => exact not_inOrder_of_unreadable place (inner _ _ h) (finds_array_iff.mp found)

section Lists

variable {α : Type} (f : ((k : κ) → T k) → α)

/-- A list of records of which one has been changed is read alike. -/
lemma alike_list (decides : form.Decides) (h : ItemChanges (form.Changes fun _ _ _ => False) n n') :
    Alike (list (Reader.map f form.record)) n n' := by
  refine h.alike (decides.record.map f) fun m m' changed => ?_
  exact (changed.alike decides fun _ _ _ => False.elim).map decides.record f

/-- A list of records is not read if one of them has two members of a field. -/
lemma unreadable_list (decides : form.Decides) (h : HasItem (form.Repeats fun _ _ => False) n)
    (l : List α) : ¬ Reads (list (Reader.map f form.record)) n.tokens l := by
  refine h.unreadable (decides.record.map f) (fun m repeated a whole => ?_) l
  obtain ⟨content, read, -⟩ := (reads_map_iff decides.record f).mp whole
  exact repeated.unreadable decides (fun _ _ => False.elim) content read

end Lists

end Form

end ClaimTracker.Json
