import Playgrounds.Text.Decimal

/-!
# Where a store server is reached

`StoreUrl.read?` takes a URL apart, and `StoreUrl.isReachable` says whether it names a store server:
a host with an optional port and database number, or a local socket by its path.
-/

namespace Playgrounds

/-- The parts of a URL that matter here. -/
structure StoreUrl where
  /-- In lower case. -/
  scheme : List Char
  /-- What stands between two slashes and the path, if the slashes are there. -/
  authority : Option (List Char)
  path : List Char

namespace StoreUrl

/-- A character that may stand in a scheme past its first letter. -/
def isSchemeChar (c : Char) : Bool :=
  c.isAlphanum || c = '+' || c = '-' || c = '.'

/-- A character that ends an authority or a path. -/
def endsPath (c : Char) : Bool :=
  c = '?' || c = '#'

/-- Takes a URL apart. Blanks around it are dropped. -/
def read? (s : String) : Option StoreUrl :=
  let isOuter (c : Char) : Bool := c.toNat ≤ 0x20
  let cs := ((s.toList.dropWhile isOuter).reverse.dropWhile isOuter).reverse
  let scheme := cs.takeWhile isSchemeChar
  match scheme, cs.drop scheme.length with
  | first :: _, ':' :: rest =>
    if !first.isAlpha then none
    else
      let scheme := scheme.map Char.toLower
      match rest with
      | '/' :: '/' :: rest =>
        let authority := rest.takeWhile fun c => !(c = '/' || endsPath c)
        let path := (rest.drop authority.length).takeWhile fun c => !endsPath c
        some ⟨scheme, some authority, path⟩
      | rest => some ⟨scheme, none, rest.takeWhile fun c => !endsPath c⟩
  | _, _ => none

/-- The host and port of an authority: what follows the last `@`. -/
def hostAndPort (authority : List Char) : List Char :=
  (authority.reverse.takeWhile (· ≠ '@')).reverse

/-- A character that no host name has. -/
def isForbidden (c : Char) : Bool :=
  c.toNat ≤ 0x20 || c = '<' || c = '>' || c = '[' || c = '\\' || c = ']' || c = '^' || c = '|'
    || c = ':' || c = '@'

/-- Whether a port may follow the host: nothing, or a colon and at most 65535. -/
def isPort : List Char → Bool
  | [] => true
  | [':'] => true
  | ':' :: ds => ((Decimal.number? ds).map fun n => decide (n ≤ 65535)).getD false
  | _ => false

/-- Whether an authority names a host. -/
def namesHost (authority : List Char) : Bool :=
  match hostAndPort authority with
  | '[' :: rest =>
    let inner := rest.takeWhile (· ≠ ']')
    !inner.isEmpty && inner.length < rest.length && isPort (rest.drop (inner.length + 1))
  | rest =>
    let host := rest.takeWhile (· ≠ ':')
    !host.isEmpty && !host.any isForbidden && isPort (rest.drop host.length)

/-- Whether the path names a database: none, or a whole number of 64 bits with an optional sign. -/
def namesDatabase (path : List Char) : Bool :=
  let inner := ((path.dropWhile (· = '/')).reverse.dropWhile (· = '/')).reverse
  match inner with
  | [] => true
  | '-' :: ds => ((Decimal.number? ds).map fun n => decide (n ≤ 1 <<< 63)).getD false
  | '+' :: ds | ds => ((Decimal.number? ds).map fun n => decide (n < 1 <<< 63)).getD false

/-- Whether the URL names a store server. -/
def isReachable (u : StoreUrl) : Bool :=
  if u.scheme = "redis".toList then
    match u.authority with
    | some authority => namesHost authority && namesDatabase u.path
    | none => false
  else if u.scheme = "unix".toList ∨ u.scheme = "redis+unix".toList then
    (u.authority.getD []).isEmpty && u.path.head? = some '/'
  else false

/-- Whether the text is a URL that names a store server. -/
def accepts (s : String) : Bool :=
  ((read? s).map isReachable).getD false

end StoreUrl

end Playgrounds
