/-! Contiguous slices of a list that is read at a position and later extended. -/
namespace SianoUserland.Slice

/-- The `length` entries of `source` from position `start` on. -/
def slice (source : List α) (start length : Nat) : List α := (source.drop start).take length

theorem slice_append_of_le (within : start + length ≤ source.length) :
    slice (source ++ later) start length = slice source start length := by
  unfold slice
  rw [List.drop_append_of_le_length (by omega), List.take_append_of_le_length]
  rw [List.length_drop]
  omega

/-- Dropping the beginning of a slice is a shorter slice that starts later. -/
theorem drop_slice : (slice source start length).drop count =
    slice source (start + count) (length - count) := by
  rw [slice, slice, List.drop_take, List.drop_drop]

/-- A suffix of the source, read at an offset, is the source read at the sum. -/
theorem slice_of_suffix (suffix : rest = source.drop base) :
    (rest.drop offset).take length = slice source (base + offset) length := by
  rw [suffix, List.drop_drop, slice]

end SianoUserland.Slice
