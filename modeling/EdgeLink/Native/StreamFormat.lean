import EdgeLink.ForStd.PrintfG
import EdgeLink.Native.StorageService

/-! # Floating-point text of the C++ library

How a stream that was only told its precision writes `float` and `double`: both in the `%g`
format, a NaN or an infinity by name. The functions that read them are still free. -/

namespace EdgeLink

/-- `operator<<` for `float` and `double`. -/
def streamFormat (stof : Bytes → Option UInt32) (stod : Bytes → Option UInt64) :
    FloatFormat where
  writeFloat precision bits := printfG precision (binary32.decode bits.toNat)
  writeDouble precision bits := printfG precision (binary64.decode bits.toNat)
  stof := stof
  stod := stod

/-- The value of a `float` or a `double`. -/
def TagValue.floatValue : TagValue → Option FloatValue
  | .float bits => some (binary32.decode bits.toNat)
  | .double bits => some (binary64.decode bits.toNat)
  | _ => none

end EdgeLink
