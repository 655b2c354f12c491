import GoAssets.Error

/-!
# Disks

A snapshot of a file system, as far as the library looks at it: the size and the content of every
path, or why they cannot be had. Content is bytes; reading it as text can fail.
-/

namespace GoAssets

/-- A snapshot of a file system. -/
structure Disk where
  size : Path → Except IoFailure Nat
  content : Path → Except IoFailure ByteArray

/-- Bytes are read as a text exactly if they are its encoding. -/
theorem fromUTF8?_eq_some_iff {bytes : ByteArray} {s : String} :
    String.fromUTF8? bytes = some s ↔ bytes = s.toUTF8 := by
  constructor
  · intro h
    unfold String.fromUTF8? at h
    split at h
    · obtain rfl := Option.some.inj h
      rfl
    · cases h
  · rintro rfl
    exact dif_pos s.isValidUTF8

namespace Disk

def text (d : Disk) (p : Path) : Except IoFailure String := do
  let bytes ← d.content p
  match String.fromUTF8? bytes with
  | some s => return s
  | none => throw .notUtf8

/-- Whether there is anything at a path. -/
def contains (d : Disk) (p : Path) : Bool := (d.size p).isOk

end Disk

end GoAssets
