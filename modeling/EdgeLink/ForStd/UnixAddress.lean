import EdgeLink.ForStd.CText

/-! # Addresses of Unix sockets

A `sockaddr_un` and what the kernel takes it to name. The path array has 108 bytes; the length
that goes with an address counts the bytes in front of the array too.

* `writeAt`: a copy into an array, `none` where it would leave the array.
* `denotes_abstract`, `denotes_file`: an address that was filled in the usual way names what
  was filled in. -/

open CText

/-- The path array and the length of the address. -/
structure UnixAddress where
  path : List UInt8
  length : Nat
deriving DecidableEq

/-- What an address can name. -/
inductive UnixName where
  | unnamed
  | abstract (name : List UInt8)
  | file (path : List UInt8)
deriving DecidableEq

namespace UnixAddress

/-- `sizeof(sun_path)`. -/
def pathSize : Nat := 108

/-- `offsetof(sockaddr_un, sun_path)`. -/
def pathOffset : Nat := 2

/-- `memcpy` to an offset of an array. -/
def writeAt (array : List UInt8) (offset : Nat) (source : List UInt8) : Option (List UInt8) :=
  if offset + source.length ≤ array.length then
    some (array.take offset ++ source ++ array.drop (offset + source.length))
  else none

/-- The kernel's reading of an address: a path that starts with NUL is an abstract name of
    exactly the given length, another one ends before its first NUL. -/
def denotes (address : UnixAddress) : UnixName :=
  match address.path.take (address.length - pathOffset) with
  | [] => .unnamed
  | c :: rest => if c = 0 then .abstract rest else .file (cString (c :: rest))

/-- An array of zeros. -/
def zeroPath : List UInt8 := List.replicate pathSize 0

theorem writeAt_zeroPath {offset : Nat} {source : List UInt8}
    (h : offset + source.length ≤ pathSize) :
    writeAt zeroPath offset source =
      some (List.replicate offset 0 ++ source ++
        List.replicate (pathSize - (offset + source.length)) 0) := by
  rw [writeAt, if_pos (by simpa [zeroPath] using h), zeroPath, List.take_replicate,
    List.drop_replicate, Nat.min_eq_left (by omega)]

/-- A NUL, the name and zeros behind it. -/
theorem denotes_abstract (name rest : List UInt8) :
    denotes ⟨0 :: name ++ rest, pathOffset + (name.length + 1)⟩ = .abstract name := by
  simp [denotes]

/-- A path without NUL, and zeros behind it. -/
theorem denotes_file {path : List UInt8} (hne : path ≠ []) (hzero : 0 ∉ path)
    (rest : List UInt8) :
    denotes ⟨path ++ 0 :: rest, pathOffset + (path.length + 1)⟩ = .file path := by
  cases path with
  | nil => exact absurd rfl hne
  | cons c path =>
    have hc : c ≠ 0 := fun heq => hzero (heq ▸ List.mem_cons_self)
    have htake : (c :: path ++ 0 :: rest).take
        (pathOffset + ((c :: path).length + 1) - pathOffset) = c :: (path ++ [0]) := by
      simp [List.take_append]
    have hcut : cString (c :: (path ++ [0])) = c :: path := by
      rw [show c :: (path ++ [0]) = (c :: path) ++ [0] from rfl, cString, List.takeWhile_append]
      have hall : (c :: path).takeWhile (· ≠ 0) = c :: path := (cString_eq_self_iff _).mpr hzero
      rw [hall]
      simp
    simp only [denotes, htake, if_neg hc, hcut]

end UnixAddress
