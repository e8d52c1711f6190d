/- Tables: finite maps from text keys, as a list of entries. Writing a key first removes every
   entry of that key, so each key has at most one entry and a lookup sees the last write. -/
namespace RequestFirewall

structure Table (α : Type) where
  entries : List (String × α) := []

namespace Table

variable {α : Type}

def empty : Table α := ⟨[]⟩

def find? (t : Table α) (k : String) : Option α :=
  (t.entries.find? (fun e => e.1 == k)).map Prod.snd

def erase (t : Table α) (k : String) : Table α :=
  ⟨t.entries.filter (fun e => e.1 != k)⟩

def insert (t : Table α) (k : String) (v : α) : Table α :=
  ⟨(k, v) :: (t.erase k).entries⟩

def size (t : Table α) : Nat := t.entries.length

def filter (p : α → Bool) (t : Table α) : Table α :=
  ⟨t.entries.filter (fun e => p e.2)⟩

def contains (t : Table α) (k : String) : Bool := (t.find? k).isSome

@[simp] theorem find?_empty (k : String) : (empty : Table α).find? k = none := rfl

@[simp] theorem find?_insert_self (t : Table α) (k : String) (v : α) :
    (t.insert k v).find? k = some v := by
  simp [find?, insert, erase]

theorem find?_erase_list (es : List (String × α)) (k k' : String) :
    (es.filter (fun e => e.1 != k)).find? (fun e => e.1 == k') =
      if k' = k then none else es.find? (fun e => e.1 == k') := by
  rw [List.find?_filter]
  split
  · rename_i same
    subst same
    rw [List.find?_eq_none]
    intro e _
    by_cases h : e.1 = k' <;> simp [h]
  · rename_i other
    congr 1
    funext e
    by_cases h : e.1 = k'
    · subst h; simp [other]
    · simp [h]

@[simp] theorem find?_erase (t : Table α) (k k' : String) :
    (t.erase k).find? k' = if k' = k then none else t.find? k' := by
  simp only [find?, erase, find?_erase_list]
  split <;> rfl

@[simp] theorem find?_erase_self (t : Table α) (k : String) : (t.erase k).find? k = none := by
  simp

theorem find?_insert_ne (t : Table α) {k k' : String} (v : α) (other : k' ≠ k) :
    (t.insert k v).find? k' = t.find? k' := by
  have hne : (k == k') = false := by simp; exact fun h => other h.symm
  have step : (t.insert k v).find? k' = (t.erase k).find? k' := by
    simp [find?, insert, hne]
  rw [step, find?_erase]
  simp [other]

theorem find?_insert (t : Table α) (k k' : String) (v : α) :
    (t.insert k v).find? k' = if k' = k then some v else t.find? k' := by
  by_cases h : k' = k
  · subst h; simp
  · rw [find?_insert_ne t v h]; simp [h]

end Table

end RequestFirewall
