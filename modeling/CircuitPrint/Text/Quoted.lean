import CircuitPrint.Text.CharacterClass

/-!
Quoted text. Quotes, backslashes and control characters are spelled by escape sequences, so that the text ends
at the first quote that no backslash introduces.
-/
namespace CircuitPrint.Text.Quoted

def spell (c : Char) : List Char :=
  if c = '\n' then ['\\', 'n']
  else if c = '\t' then ['\\', 't']
  else if c = '\r' then ['\\', 'r']
  else if c = '"' then ['\\', '"']
  else if c = '\\' then ['\\', '\\']
  else if isControl c then ['\\', 'u', '{'] ++ Nat.toDigits 16 c.toNat ++ ['}']
  else [c]

def body (text : List Char) : List Char :=
  text.flatMap spell

def quote (text : String) : String :=
  String.ofList ('"' :: (body text.toList ++ ['"']))

theorem toList_quote (text : String) : (quote text).toList = '"' :: (body text.toList ++ ['"']) := by
  simp [quote]

end CircuitPrint.Text.Quoted
