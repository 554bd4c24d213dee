import EventHub.Json.Basic

/-!
The compact written form of a JSON value: no blanks, and in strings only the quote, the backslash
and characters below U+0020 escaped.
-/

namespace EventHub.Json

def hexDigit (value : Nat) : Char :=
  if value < 10 then Char.ofNat (48 + value) else Char.ofNat (87 + value)

def escapeChar (char : Char) : List Char :=
  if char = '"' then ['\\', '"']
  else if char = '\\' then ['\\', '\\']
  else if char = '\n' then ['\\', 'n']
  else if char = '\r' then ['\\', 'r']
  else if char = '\t' then ['\\', 't']
  else if char = '\x08' then ['\\', 'b']
  else if char = '\x0c' then ['\\', 'f']
  else if char.toNat < 0x20 then
    ['\\', 'u', '0', '0', hexDigit (char.toNat / 16), hexDigit (char.toNat % 16)]
  else [char]

def quote (text : List Char) : List Char :=
  '"' :: text.flatMap escapeChar ++ ['"']

mutual

def chars : Json → List Char
  | null | unreadable => ['n', 'u', 'l', 'l']
  | bool true => ['t', 'r', 'u', 'e']
  | bool false => ['f', 'a', 'l', 's', 'e']
  | number value => value.chars
  | text value => quote value.toList
  | array items => '[' :: itemChars items
  | object members => '{' :: memberChars members

def itemChars : List Json → List Char
  | [] => [']']
  | [item] => item.chars ++ [']']
  | item :: rest => item.chars ++ ',' :: itemChars rest

def memberChars : List (Option String × Json) → List Char
  | [] => ['}']
  | [(key, value)] => quote (key.getD "").toList ++ ':' :: value.chars ++ ['}']
  | (key, value) :: rest =>
      quote (key.getD "").toList ++ ':' :: value.chars ++ ',' :: memberChars rest

end

def print (json : Json) : String :=
  String.ofList json.chars

end EventHub.Json
