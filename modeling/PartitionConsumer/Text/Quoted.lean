import PartitionConsumer.Text.Extending
import PartitionConsumer.Text.Unprintable
/-!
Quoted text: between double quotes, with quotes, backslashes, the usual controls and all that does not
show by itself escaped.
-/
namespace PartitionConsumer

def hexDigits (n : Nat) : String := String.ofList (Nat.toDigits 16 n)

def escapeNumber (c : Char) : String := "\\u\x7b" ++ hexDigits c.toNat ++ "\x7d"

/-- A character as it stands between the quotes. -/
def escapeChar (c : Char) : String :=
  if c = '"' then "\\\""
  else if c = '\\' then "\\\\"
  else if c = '\n' then "\\n"
  else if c = '\r' then "\\r"
  else if c = '\t' then "\\t"
  else if c.toNat = 0 then "\\0"
  else if isExtending c || !isPrintable c then escapeNumber c
  else c.toString

def quoted (s : String) : String :=
  "\"" ++ String.join (s.toList.map escapeChar) ++ "\""

end PartitionConsumer
