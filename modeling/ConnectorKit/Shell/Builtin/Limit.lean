import ConnectorKit.Shell.Builtin.Basic

/-!
What a shell is allowed: the permissions of new files, and limits.
-/

set_option autoImplicit false
set_option relaxedAutoImplicit false

namespace ConnectorKit.Shell.Builtin

/-- The permissions that a mask leaves, in letters. -/
private def leftLetters (mask : Nat) (shift : Nat) : Octets :=
  let bits := mask / Nat.pow 8 shift % 8
  (if bits / 4 % 2 = 0 then ['r'] else []) ++ (if bits / 2 % 2 = 0 then ['w'] else []) ++
    if bits % 2 = 0 then ['x'] else []

private def maskWords (mask : Nat) : Octets :=
  "u=".toList ++ leftLetters mask 2 ++ ",g=".toList ++ leftLetters mask 1 ++ ",o=".toList ++
    leftLetters mask 0

/-- The bits that letters for users stand for. -/
private def whoBits (t : Octets) : Nat :=
  let letters := if t.isEmpty || t.contains 'a' then ['u', 'g', 'o'] else t
  letters.eraseDups.foldl (fun n c =>
    n + if c = 'u' then 448 else if c = 'g' then 56 else if c = 'o' then 7 else 0) 0

/-- The bits of all users that a letter stands for; it can name users whose permissions are taken. -/
private def letterBits (permissions : Nat) : Char → Option Nat
  | 'r' => some 292
  | 'w' => some 146
  | 'x' => some 73
  | 'X' | 's' => some 0
  | 'u' => some (permissions / 64 % 8 * 73)
  | 'g' => some (permissions / 8 % 8 * 73)
  | 'o' => some (permissions % 8 * 73)
  | _ => none

/-- The permissions after a clause, if it is one. -/
private def applyClause (permissions : Nat) (t : Octets) : Option Nat := do
  let who := t.takeWhile fun c => c ∈ ['u', 'g', 'o', 'a']
  let bits := whoBits who
  match t.drop who.length with
  | [] => none
  | operator :: letters =>
    let wanted ← letters.foldlM (fun n c => do return n ||| (← letterBits permissions c)) 0
    let wanted := wanted &&& bits
    match operator with
    | '+' => return permissions ||| wanted
    | '-' => return permissions &&& (511 - wanted)
    | '=' => return (permissions &&& (511 - bits)) ||| wanted
    | _ => none

/-- The permissions that new files are not given. -/
def umask (arguments : List Octets) : Run Nat := do
  let (letters, arguments) ← options ['S'] arguments
  let mask := (← get).mask
  match arguments with
  | [] =>
    if letters.isEmpty then
      let digits := (Nat.toDigits 8 mask)
      print (List.replicate (4 - digits.length) '0' ++ digits ++ ['\n'])
    else print (maskWords mask ++ ['\n'])
  | a :: _ =>
    let mask ←
      if (a.head?.map Char.isDigit).getD false then
        if a.all fun c => '0' ≤ c && c ≤ '7' then pure ((Number.digits 8 0 a).1 % 512)
        else fault ("Illegal number: ".toList ++ a)
      else
        match (Text.Search.splitChars ',' a).foldlM applyClause (511 - mask) with
        | some permissions => pure (511 - permissions)
        | none => fault ("Illegal mode: ".toList ++ a)
    modify fun s => { s with mask := mask }
    return 0

/-- The limits of this process; there are none. -/
def ulimit (arguments : List Octets) : Run Nat := do
  let known := "HSatfdscmlpnvwr".toList
  let (_, arguments) ← options known arguments
  if arguments.isEmpty then print "unlimited\n".toList else return 0

end ConnectorKit.Shell.Builtin
