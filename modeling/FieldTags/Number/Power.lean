/-!
# Powers

Powers of the bases in which numbers are kept and written, and the bounds of whole numbers that have
their place in 32 or 64 bits.
-/

namespace FieldTags

def twoPow (exponent : Nat) : Nat := Nat.pow 2 exponent

def tenPow (exponent : Nat) : Nat := Nat.pow 10 exponent

def minInt32 : Int := -2147483648

def maxInt32 : Int := 2147483647

def maxUInt32 : Int := 4294967295

def minInt64 : Int := -9223372036854775808

def maxInt64 : Int := 9223372036854775807

def maxUInt64 : Int := 18446744073709551615

end FieldTags
