import TableDump.Text.LetterCase

/-! # Spellings of table names

Names that are equal ignoring case name one table.

* `distinctNames` keeps the first spelling of each name;
* `findName?` finds the spelling under which a list holds a name.
-/

namespace TableDump.Schema
open TableDump.Text
set_option autoImplicit false

def distinctNames : List String → List String
  | [] => []
  | t :: rest => t :: (distinctNames rest).filter fun u => !sameName t u

def findName? (t : String) (names : List String) : Option String := names.find? fun u => sameName u t

theorem mem_of_mem_distinctNames {t : String} {names : List String} (h : t ∈ distinctNames names) :
    t ∈ names := by
  induction names with
  | nil => simp [distinctNames] at h
  | cons u rest ih =>
    rcases List.mem_cons.1 h with rfl | h
    · exact List.mem_cons_self
    · exact List.mem_cons_of_mem _ (ih (List.mem_filter.1 h).1)

theorem exists_mem_distinctNames {t : String} {names : List String} (h : t ∈ names) :
    ∃ u ∈ distinctNames names, sameName u t = true := by
  induction names with
  | nil => simp at h
  | cons v rest ih =>
    rcases List.mem_cons.1 h with rfl | h
    · exact ⟨t, List.mem_cons_self, sameName_refl t⟩
    · obtain ⟨u, hu, hut⟩ := ih h
      cases hvu : sameName v u with
      | true => exact ⟨v, List.mem_cons_self, sameName_trans hvu hut⟩
      | false => exact ⟨u, List.mem_cons_of_mem _ (List.mem_filter.2 ⟨hu, by simp [hvu]⟩), hut⟩

/-- No two of the names are equal ignoring case. -/
theorem pairwise_distinctNames (names : List String) :
    (distinctNames names).Pairwise fun a b => sameName a b = false := by
  induction names with
  | nil => exact List.Pairwise.nil
  | cons t rest ih =>
    refine List.pairwise_cons.2 ⟨fun u hu => ?_, ih.filter _⟩
    simpa using (List.mem_filter.1 hu).2

end TableDump.Schema
