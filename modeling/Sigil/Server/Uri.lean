import Sigil.Text.Basic

/-! # URI references

    Documents are identified by URI references: an optional scheme, an optional
    authority, a path, an optional query and an optional fragment.  Only ASCII
    characters are allowed, and a percent sign stands before two hexadecimal
    digits.

    * `isUriReference`: is a text a URI reference? -/

namespace Sigil

namespace Uri

/-! ## Characters -/

/-- Is a character a hexadecimal digit? -/
def isHexDigit (c : Char) : Bool :=
  c.isDigit || ('a' ≤ c && c ≤ 'f') || ('A' ≤ c && c ≤ 'F')

/-- Characters without a special meaning. -/
def isUnreserved (c : Char) : Bool :=
  c.isAlphanum || "-._~".toList.contains c

/-- Characters that may have a meaning within a part. -/
def isSubDelimiter (c : Char) : Bool :=
  "!$&()*+,;=".toList.contains c || c == Char.ofNat 0x27

/-- Characters of a user name or of a host's name. -/
def isNameChar (c : Char) : Bool :=
  isUnreserved c || isSubDelimiter c

/-- Characters of a path, slashes included. -/
def isPathChar (c : Char) : Bool :=
  isNameChar c || c == ':' || c == '@' || c == '/'

/-- Characters of a query or a fragment. -/
def isQueryChar (c : Char) : Bool :=
  isPathChar c || c == '?'

/-- Does a text consist of such characters and of escaped ones? -/
def consistsOf (allowed : Char → Bool) : Text → Bool
  | [] => true
  | '%' :: h :: l :: rest => isHexDigit h && isHexDigit l && consistsOf allowed rest
  | c :: rest => allowed c && consistsOf allowed rest

/-! ## Hosts -/

/-- A number up to 255 in decimal digits, without zeros before it. -/
def isDecimalOctet (t : Text) : Bool :=
  match t with
  | [] => false
  | ['0'] => true
  | c :: rest =>
    c != '0' && (c :: rest).all Char.isDigit && rest.length ≤ 2
      && (c :: rest).foldl (fun n d => 10 * n + (d.toNat - '0'.toNat)) 0 ≤ 255

/-- Four octets with dots between them. -/
def isIpv4 (t : Text) : Bool :=
  let octets := t.splitOn '.'
  octets.length = 4 && octets.all isDecimalOctet

/-- One to four hexadecimal digits. -/
def isHexGroup (t : Text) : Bool :=
  1 ≤ t.length && t.length ≤ 4 && t.all isHexDigit

/-- The number of groups of 16 bits that pieces between colons stand for.  An
    address of the fourth version may stand last, for two groups. -/
def groupCount? (lastPart : Bool) : List Text → Option Nat
  | [] => some 0
  | [piece] =>
    if isHexGroup piece then some 1
    else if lastPart && isIpv4 piece then some 2
    else none
  | piece :: rest => if isHexGroup piece then (groupCount? lastPart rest).map (· + 1) else none

/-- The groups between colons in a part of an address; an empty part has none. -/
def groupsOf? (lastPart : Bool) (part : Text) : Option Nat :=
  if part.isEmpty then some 0 else groupCount? lastPart (part.splitOn ':')

/-- Cut a text at the first double colon. -/
def cutDoubleColon? : Text → Option (Text × Text)
  | [] => none
  | [_] => none
  | c :: d :: rest =>
    if c = ':' ∧ d = ':' then some ([], rest)
    else (cutDoubleColon? (d :: rest)).map fun (before, after) => (c :: before, after)

/-- Eight groups of 16 bits, or fewer with a double colon for those that are left
    out. -/
def isIpv6 (t : Text) : Bool :=
  match cutDoubleColon? t with
  | some (before, after) =>
    match groupsOf? false before, groupsOf? true after with
    | some m, some n => m + n ≤ 7
    | _, _ => false
  | none => groupsOf? true t == some 8

/-- An address of a version to come: a `v`, hexadecimal digits, a dot and names. -/
def isIpvFuture (t : Text) : Bool :=
  match t with
  | 'v' :: rest | 'V' :: rest =>
    !(rest.takeWhile isHexDigit).isEmpty &&
      match rest.dropWhile isHexDigit with
      | '.' :: name => !name.isEmpty && name.all fun c => isNameChar c || c == ':'
      | _ => false
  | _ => false

/-- Is this what may follow a host: nothing, or a colon and digits? -/
def isAfterHost : Text → Bool
  | [] => true
  | ':' :: digits => digits.all Char.isDigit
  | _ => false

/-- A host and perhaps a number after it. -/
def isHostPart (t : Text) : Bool :=
  match t with
  | '[' :: rest =>
    let literal := rest.takeWhile (· != ']')
    (isIpv6 literal || isIpvFuture literal) &&
      match rest.dropWhile (· != ']') with
      | ']' :: after => isAfterHost after
      | _ => false
  | _ => consistsOf isNameChar (t.takeWhile (· != ':')) && isAfterHost (t.dropWhile (· != ':'))

/-- A host, perhaps with a user before it and a number after it. -/
def isAuthority (t : Text) : Bool :=
  match t.dropWhile (· != '@') with
  | [] => isHostPart t
  | _ :: host =>
    consistsOf (fun c => isNameChar c || c == ':') (t.takeWhile (· != '@')) && isHostPart host

/-! ## References -/

/-- Cut a text before the first character that ends a part. -/
def cutBefore (ends : Char → Bool) (t : Text) : Text × Text :=
  (t.takeWhile fun c => !ends c, t.dropWhile fun c => !ends c)

/-- A path, perhaps with an authority before it. -/
def isHierarchy (t : Text) : Bool :=
  match t with
  | '/' :: '/' :: rest =>
    let (authority, path) := cutBefore (· == '/') rest
    isAuthority authority && consistsOf isPathChar path
  | _ => consistsOf isPathChar t

/-- A scheme starts with a letter. -/
def isScheme (t : Text) : Bool :=
  match t with
  | [] => false
  | c :: rest => c.isAlpha && rest.all fun d => d.isAlphanum || "+-.".toList.contains d

/-- What stands before the query and the fragment.  A colon in its first piece ends
    a scheme. -/
def isSchemeAndHierarchy (t : Text) : Bool :=
  let (first, _) := cutBefore (· == '/') t
  if first.any (· == ':') then
    isScheme (t.takeWhile (· != ':')) && isHierarchy (t.dropWhile (· != ':')).tail
  else isHierarchy t

end Uri

open Uri in
/-- **URI reference.**  Is a text one? -/
def isUriReference (t : Text) : Bool :=
  let (beforeFragment, fragment) := cutBefore (· == '#') t
  let (beforeQuery, query) := cutBefore (· == '?') beforeFragment
  isSchemeAndHierarchy beforeQuery && consistsOf isQueryChar query.tail
    && consistsOf isQueryChar fragment.tail

end Sigil
