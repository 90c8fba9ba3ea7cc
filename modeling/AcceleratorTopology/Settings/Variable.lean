import AcceleratorTopology.Text.Utf8

/-!
# Environment variables

A variable is unset or holds bytes; a value that is not UTF-8 cannot be read as text and is taken
for unset wherever text is asked for.
-/

namespace AcceleratorTopology.Settings

/-- The state of one environment variable. -/
inductive Variable where
  | unset
  | value (bytes : List UInt8)
  deriving DecidableEq, Repr

namespace Variable

/-- The variable set to a text. -/
def ofText (s : String) : Variable := value (Text.Utf8.encode s)

/-- The text of a variable, none if it is unset or no UTF-8. -/
def text? : Variable → Option String
  | unset => none
  | value bytes => Text.Utf8.decode? bytes

end Variable

end AcceleratorTopology.Settings
