/-!
# TOML values

A value as TOML means it. Integers have 64 bits. Floating-point numbers and date-times are kept as
they are spelled.
-/

namespace GoAssets.Toml

inductive Value where
  | string (text : String)
  | integer (n : Int)
  | float (spelling : String)
  | boolean (b : Bool)
  | dateTime (spelling : String)
  | array (items : List Value)
  | table (entries : List (String × Value))

def minInteger : Int := -9223372036854775808

def maxInteger : Int := 9223372036854775807

end GoAssets.Toml
