import SourceDigest.Decimal.Binary
import SourceDigest.Dict
import SourceDigest.Toml.Moment

namespace SourceDigest.Toml

open Decimal (Binary)

inductive Form where
  | header
  | path
  | dotted
  | inline
  deriving DecidableEq, Repr

inductive Value where
  | string (s : String)
  | integer (n : Int)
  | float (x : Binary)
  | boolean (b : Bool)
  | moment (m : Moment)
  | array (items : List Value)
  | table (form : Form) (entries : List (String × Value))
  | tables (rows : List (List (String × Value)))
  deriving Repr, Inhabited

abbrev Entries := List (String × Value)

end SourceDigest.Toml
