/-!
# Barcodes on tags

A tag carries the barcode of its item behind a two-character mark. The station works with the
barcode alone: it is what the backend is asked about and what retries are remembered by.

## Main definitions

* `Barcode.mark` — the mark
* `Barcode.ofTag` — the barcode that a tag carries
* `Barcode.toTag` — what is written to a tag

## Main results

* `Barcode.ofTag_toTag` — what is written to a tag is read back
-/

namespace SelfCheck.Barcode

/-- The mark in front of every barcode on a tag. -/
def mark : String := "10"

/-- The barcode that a tag carries: the mark is taken off once, if it is there. -/
def ofTag (onTag : String) : String :=
  match onTag.toList with
  | '1' :: '0' :: rest => String.ofList rest
  | _ => onTag

/-- What is written to a tag. -/
def toTag (barcode : String) : String := mark ++ barcode

@[simp] theorem ofTag_toTag (barcode : String) : ofTag (toTag barcode) = barcode := by
  have : (toTag barcode).toList = '1' :: '0' :: barcode.toList := by
    simp [toTag, mark]
  simp [ofTag, this]

end SelfCheck.Barcode
