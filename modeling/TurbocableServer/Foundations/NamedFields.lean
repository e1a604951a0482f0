import Mathlib.Data.List.Basic
import Mathlib.Data.String.Basic

/-!
# Records as lists of named members

Reading a record out of the members of a map: a field may be missing, it must not
occur twice, and members with other names are skipped.  A map that is collected
into a sorted tree is the list of its members in the order of their names, the
last of equal names kept.
-/

namespace TurbocableServer.Foundations.NamedFields

universe u v

variable {α : Type u} {β : Type v}

/-! ## Fields -/

/-- The value of a field, if it is there; `none` if it occurs twice. -/
def field (members : List (String × α)) (name : String) :
    Option (Option α) :=
  match members.filter (fun entry => entry.1 = name) with
  | [] => some none
  | [entry] => some (some entry.2)
  | _ => none

/-- Read a field that has to be there. -/
def required (members : List (String × α)) (name : String)
    (read : α → Option β) : Option β :=
  match field members name with
  | some (some value) => read value
  | _ => none

/-- Read a field that has a default. -/
def defaulted (members : List (String × α)) (name : String) (fallback : β)
    (read : α → Option β) : Option β :=
  match field members name with
  | some (some value) => read value
  | some none => some fallback
  | none => none

theorem field_cons_of_ne {key name : String} (different : key ≠ name)
    (value : α) (rest : List (String × α)) :
    field ((key, value) :: rest) name = field rest name := by
  rw [field, field, List.filter_cons_of_neg (by simpa using different)]

theorem field_cons_self {name : String} {rest : List (String × α)}
    (absent : name ∉ rest.map Prod.fst) (value : α) :
    field ((name, value) :: rest) name = some (some value) := by
  have noOther : rest.filter (fun entry => entry.1 = name) = [] := by
    rw [List.filter_eq_nil_iff]
    intro entry present same
    exact absent (List.mem_map.mpr ⟨entry, present, of_decide_eq_true same⟩)
  rw [field, List.filter_cons_of_pos (by simp), noOther]

section Reading

variable {name : String} {rest : List (String × α)} {read : α → Option β}

@[simp]
theorem required_nil : required [] name read = none :=
  rfl

@[simp]
theorem required_cons_of_ne {key : String} (different : key ≠ name)
    (value : α) :
    required ((key, value) :: rest) name read = required rest name read := by
  rw [required, field_cons_of_ne different, required]

@[simp]
theorem required_cons_self (absent : name ∉ rest.map Prod.fst) (value : α) :
    required ((name, value) :: rest) name read = read value := by
  rw [required, field_cons_self absent]

@[simp]
theorem defaulted_nil (fallback : β) :
    defaulted [] name fallback read = some fallback :=
  rfl

@[simp]
theorem defaulted_cons_of_ne {key : String} (different : key ≠ name)
    (value : α) (fallback : β) :
    defaulted ((key, value) :: rest) name fallback read =
      defaulted rest name fallback read := by
  rw [defaulted, field_cons_of_ne different, defaulted]

@[simp]
theorem defaulted_cons_self (absent : name ∉ rest.map Prod.fst)
    (value : α) (fallback : β) :
    defaulted ((name, value) :: rest) name fallback read = read value := by
  rw [defaulted, field_cons_self absent]

end Reading

/-- A field that is left out when it has no value. -/
@[simp]
def skipNone (name : String) (write : β → α) : Option β → List (String × α)
  | some value => [(name, write value)]
  | none => []

/-! ## Tags -/

/-- The tag of a record and the members next to it. -/
def tagged (tag : String) (members : List (String × α))
    (read : α → Option β) : Option (β × List (String × α)) :=
  (required members tag read).map (fun variant =>
    (variant, members.filter (fun entry => entry.1 ≠ tag)))

@[simp]
theorem tagged_cons_self {tag : String} {rest : List (String × α)}
    (absent : tag ∉ rest.map Prod.fst) (value : α) (read : α → Option β) :
    tagged tag ((tag, value) :: rest) read =
      (read value).map (fun variant => (variant, rest)) := by
  have others : rest.filter (fun entry => entry.1 ≠ tag) = rest := by
    rw [List.filter_eq_self]
    intro entry present
    rw [decide_eq_true_iff]
    intro same
    exact absent (List.mem_map.mpr ⟨entry, present, same⟩)
  rw [tagged, required_cons_self absent, List.filter_cons_of_neg (by simp),
    others]

/-! ## Sorted maps -/

/-- Insert a member into a map that is sorted by name. -/
def insertSorted (name : String) (value : α) :
    List (String × α) → List (String × α)
  | [] => [(name, value)]
  | head :: tail =>
      if name < head.1 then
        (name, value) :: head :: tail
      else if name = head.1 then
        (name, value) :: tail
      else
        head :: insertSorted name value tail

/-- Collect members into a sorted map, the later ones last. -/
def collect (members : List (String × α)) : List (String × α) :=
  members.foldl (fun map entry => insertSorted entry.1 entry.2 map) []

/-- The names are strictly increasing. -/
def Sorted (members : List (String × α)) : Prop :=
  members.Pairwise (fun early late => early.1 < late.1)

theorem insertSorted_of_last {name : String} {value : α} :
    ∀ {members : List (String × α)},
      (∀ entry ∈ members, entry.1 < name) →
        insertSorted name value members = members ++ [(name, value)]
  | [], _ => rfl
  | head :: tail, below => by
      have first : head.1 < name := below head List.mem_cons_self
      rw [insertSorted, if_neg (not_lt_of_gt first), if_neg first.ne',
        insertSorted_of_last
          (fun entry member => below entry (List.mem_cons_of_mem head member))]
      rfl

/-- Collecting members that are in order keeps them. -/
theorem collect_of_sorted {members : List (String × α)}
    (sorted : Sorted members) : collect members = members := by
  have throughout : ∀ (remaining map : List (String × α)),
      Sorted (map ++ remaining) →
        remaining.foldl
            (fun map entry => insertSorted entry.1 entry.2 map) map =
          map ++ remaining := by
    intro remaining
    induction remaining with
    | nil =>
        intro map _
        exact (List.append_nil map).symm
    | cons entry later ih =>
        intro map inOrder
        have below : ∀ earlier ∈ map, earlier.1 < entry.1 := by
          intro earlier member
          exact (List.pairwise_append.mp inOrder).2.2 earlier member entry
            List.mem_cons_self
        have shape : map ++ entry :: later = map ++ [entry] ++ later := by
          simp
        rw [List.foldl_cons, insertSorted_of_last below, shape]
        rw [shape] at inOrder
        exact ih _ inOrder
  exact throughout members [] sorted

end TurbocableServer.Foundations.NamedFields
