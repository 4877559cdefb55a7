/-!
# Ledgers by barcode

What a station remembers of single items it keeps by barcode, one entry for each.

## Main definitions

* `Ledger` — entries by barcode
* `Ledger.get?`, `Ledger.insert`, `Ledger.erase` — reading, replacing and removing an entry

## Main results

* `Ledger.get?_insert`, `Ledger.get?_erase` — what each operation does to the entries
* `Ledger.insert_empty`, `Ledger.erase_single` — ledgers with one entry
-/

namespace SelfCheck

/-- Entries by barcode, the one written last in front. -/
structure Ledger (α : Type) where
  entries : List (String × α)
deriving Repr, DecidableEq

namespace Ledger

variable {α : Type} {l : Ledger α} {b c : String} {a : α}

/-- The ledger without entries. -/
def empty : Ledger α := ⟨[]⟩

instance : Inhabited (Ledger α) := ⟨empty⟩

/-- The ledger with one entry. -/
def single (b : String) (a : α) : Ledger α := ⟨[(b, a)]⟩

/-- The entry of a barcode. -/
def get? (l : Ledger α) (b : String) : Option α :=
  (l.entries.find? fun e => e.1 = b).map (·.2)

/-- The ledger without the entry of a barcode. -/
def erase (l : Ledger α) (b : String) : Ledger α := ⟨l.entries.filter fun e => e.1 ≠ b⟩

/-- The ledger with an entry for a barcode, in place of an older one. -/
def insert (l : Ledger α) (b : String) (a : α) : Ledger α := ⟨(b, a) :: (l.erase b).entries⟩

/-- The barcodes with an entry. -/
def barcodes (l : Ledger α) : List String := l.entries.map (·.1)

@[simp] theorem get?_empty : (empty : Ledger α).get? b = none := rfl

@[simp] theorem insert_empty : (empty : Ledger α).insert b a = single b a := rfl

@[simp] theorem erase_empty : (empty : Ledger α).erase b = empty := rfl

@[simp] theorem erase_single : (single b a).erase b = empty := by
  simp [erase, single, empty]

@[simp] theorem get?_single : (single b a).get? b = some a := by
  simp [get?, single]

theorem get?_single_of_ne (h : b ≠ c) : (single b a).get? c = none := by
  simp [get?, single, h]

@[simp] theorem get?_insert_self : (l.insert b a).get? b = some a := by
  simp [get?, insert]

theorem get?_erase : (l.erase b).get? c = if c = b then none else l.get? c := by
  obtain ⟨es⟩ := l
  simp only [get?, erase]
  induction es with
  | nil => simp
  | cons e es ih =>
    by_cases he : e.1 = b
    · simp only [List.filter_cons, he, ne_eq, not_true_eq_false, decide_false, Bool.false_eq_true,
        if_false, List.find?_cons]
      rw [ih]
      by_cases hc : c = b
      · simp [hc]
      · simp [hc, Ne.symm hc]
    · simp only [List.filter_cons, ne_eq, he, not_false_eq_true, decide_true, if_true,
        List.find?_cons]
      by_cases hec : e.1 = c
      · have : c ≠ b := fun h => he (hec.trans h)
        simp [hec, this]
      · simp only [hec, decide_false]
        exact ih

theorem get?_insert : (l.insert b a).get? c = if c = b then some a else l.get? c := by
  by_cases h : c = b
  · simp [h]
  · have : (l.erase b).get? c = l.get? c := by rw [get?_erase, if_neg h]
    rw [if_neg h, ← this]
    simp [get?, insert, Ne.symm h]

end Ledger

end SelfCheck
