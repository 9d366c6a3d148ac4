import Mathlib.Data.List.Nodup
import RangeLab.Table

/-!
# Tables are sorted, and lose nothing

Whatever is put into a table, its entries stand in ascending order of different names
(`sorted_ofEntries`). Entries that have different names all stay in it, so the table is made up of
just these (`perm_ofEntries`). Of entries with one name the last is found (`lookup_ofEntries`).
-/

namespace RangeLab.Table

variable {α : Type} {table entries : List (String × α)} {name : String} {a : α}

/-- The names of the table are different and ascend. -/
def Sorted (table : List (String × α)) : Prop := table.Pairwise fun e e' => e.1 < e'.1

/-! ## One entry more -/

theorem mem_insert {e : String × α} (h : e ∈ insert name a table) : e = (name, a) ∨ e ∈ table := by
  induction table with
  | nil => exact .inl (List.mem_singleton.mp h)
  | cons e' es ih =>
      rw [insert] at h
      split at h
      · exact List.mem_cons.mp h
      · split at h
        · exact (List.mem_cons.mp h).imp_right (List.mem_cons_of_mem e')
        · rcases List.mem_cons.mp h with rfl | h
          · exact .inr List.mem_cons_self
          · exact (ih h).imp_right (List.mem_cons_of_mem e')

theorem Sorted.insert (h : Sorted table) (name : String) (a : α) :
    Sorted (Table.insert name a table) := by
  induction table with
  | nil => exact List.pairwise_singleton _ _
  | cons e es ih =>
      obtain ⟨hfirst, hrest⟩ := List.pairwise_cons.mp h
      rw [Table.insert]
      split
      · rename_i hlt
        refine List.pairwise_cons.mpr ⟨fun e' he' => ?_, h⟩
        rcases List.mem_cons.mp he' with rfl | he'
        · exact hlt
        · exact String.lt_trans hlt (hfirst e' he')
      · rename_i hnot
        split
        · rename_i heq
          exact List.pairwise_cons.mpr ⟨fun e' he' => heq ▸ hfirst e' he', hrest⟩
        · rename_i hne
          have hlt : e.1 < name := String.not_le.mp fun hle =>
            hne (String.le_antisymm hle (String.not_lt.mp hnot))
          refine List.pairwise_cons.mpr ⟨fun e' he' => ?_, ih hrest⟩
          rcases mem_insert he' with rfl | he'
          · exact hlt
          · exact hfirst e' he'

/-- Nothing is replaced by an entry with a new name. -/
theorem perm_insert (h : name ∉ table.map Prod.fst) :
    (insert name a table).Perm ((name, a) :: table) := by
  induction table with
  | nil => exact .refl _
  | cons e es ih =>
      obtain ⟨hne, hrest⟩ := not_or.mp (mt List.mem_cons.mpr h)
      rw [insert, if_neg hne]
      split
      · exact .refl _
      · exact ((ih hrest).cons e).trans (.swap _ _ _)

/-! ## All entries -/

theorem sorted_ofEntries (entries : List (String × α)) : Sorted (ofEntries entries) :=
  List.foldlRecOn entries _ List.Pairwise.nil fun _ h e _ => h.insert e.1 e.2

theorem perm_foldl_insert (hnd : ((entries ++ table).map Prod.fst).Nodup) :
    (entries.foldl (fun table e => insert e.1 e.2 table) table).Perm (entries ++ table) := by
  induction entries generalizing table with
  | nil => exact .refl _
  | cons e es ih =>
      rw [List.cons_append, List.map_cons, List.nodup_cons] at hnd
      obtain ⟨hnot, hnd⟩ := hnd
      have hstep : (insert e.1 e.2 table).Perm (e :: table) := perm_insert fun hmem =>
        hnot (by rw [List.map_append]; exact List.mem_append_right _ hmem)
      have hmiddle : (es ++ insert e.1 e.2 table).Perm (e :: (es ++ table)) :=
        (hstep.append_left es).trans List.perm_middle
      refine (ih ?_).trans hmiddle
      rw [(hmiddle.map Prod.fst).nodup_iff, List.map_cons, List.nodup_cons]
      exact ⟨hnot, hnd⟩

theorem perm_ofEntries (hnd : (entries.map Prod.fst).Nodup) : (ofEntries entries).Perm entries := by
  have hall := @perm_foldl_insert α [] entries
  rw [List.append_nil] at hall
  exact hall hnd

/-! ## What is found -/

theorem lookup_cons (e : String × α) (name : String) :
    (e :: table).lookup name = if name = e.1 then some e.2 else table.lookup name := by
  rw [List.lookup_cons]
  by_cases h : name = e.1
  · rw [if_pos h, beq_iff_eq.mpr h]
  · rw [if_neg h, beq_false_of_ne h]

/-- An insertion changes what is found under one name, whatever the table. -/
theorem lookup_insert (name' : String) :
    (insert name a table).lookup name' = if name' = name then some a else table.lookup name' := by
  induction table with
  | nil => exact lookup_cons (name, a) name'
  | cons e es ih =>
      rw [insert]
      split
      · exact lookup_cons (name, a) name'
      · split
        · rename_i heq
          rw [lookup_cons, lookup_cons, ← heq]
          by_cases hname : name' = name
          · rw [if_pos hname, if_pos hname]
          · rw [if_neg hname, if_neg hname, if_neg hname]
        · rename_i hne
          rw [lookup_cons, lookup_cons, ih]
          by_cases hname : name' = e.1
          · rw [if_pos hname, if_pos hname, if_neg fun h => hne (h.symm.trans hname)]
          · rw [if_neg hname, if_neg hname]

/-- Of the entries with one name the last is found, and without one what was in the table. -/
theorem lookup_foldl_insert (entries : List (String × α)) (name : String)
    (table : List (String × α)) :
    (entries.foldl (fun table e => insert e.1 e.2 table) table).lookup name
      = ((entries.findRev? fun e => e.1 == name).map Prod.snd).or (table.lookup name) := by
  induction entries generalizing table with
  | nil => rfl
  | cons e es ih =>
      rw [List.foldl_cons, ih, lookup_insert, List.findRev?]
      cases es.findRev? fun e => e.1 == name with
      | some found => rfl
      | none =>
          by_cases h : name = e.1
          · simp [h]
          · simp [h, Ne.symm h]

/-- Of the entries with one name the table keeps the last. -/
theorem lookup_ofEntries (name : String) :
    (ofEntries entries).lookup name = (entries.findRev? fun e => e.1 == name).map Prod.snd := by
  rw [ofEntries, lookup_foldl_insert, List.lookup_nil, Option.or_none]

end RangeLab.Table
