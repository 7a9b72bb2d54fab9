/-!
# Request targets

The target of a request is a path with a query behind a question mark, such a path behind a scheme
and the address of a host, an asterisk, or the address of a host alone.

## Main definitions

* `Criteria.RequestTarget.isAuthority` — whether a text is the address of a host.
* `Criteria.RequestTarget.path?` — the path of a target, if it is one.

## Implementation notes

The address of a host is looked at from left to right. A colon or a percent sign is forgiven once an
at sign or a closing bracket follows it, since then it has not been that of a port or of a name.
-/

set_option autoImplicit false
set_option relaxedAutoImplicit false

namespace Criteria.RequestTarget

/-! ## Characters -/

/-- Whether a character may stand in a path or a query. -/
def isPathChar (c : Char) : Bool := ' ' < c && ['#', '<', '>', '\x7f'].all (· != c)

/-- Whether a character may stand in the name of a scheme. -/
def isSchemeChar (c : Char) : Bool := c.isAlphanum || ['+', '-', '.', '~'].contains c

/-- Whether a character may stand in the address of a host. -/
def isHostChar (c : Char) : Bool := c.isAlphanum || "!$&'()*+,-.:;=_~[]@".toList.contains c

/-! ## Hosts -/

/-- What has been seen of the address of a host. -/
structure HostState where
  /-- How many colons are not forgiven. -/
  colons : Nat := 0
  /-- Whether there is an opening bracket. -/
  isOpened : Bool := false
  /-- Whether there is a closing bracket. -/
  isClosed : Bool := false
  /-- Whether there is a percent sign that is not forgiven. -/
  hasPercent : Bool := false
  /-- Whether the last character is an at sign. -/
  endsAtSign : Bool := false

/-- The most colons that an address in brackets can have. -/
def maxColons : Nat := 8

/-- What has been seen with one more character. -/
def HostState.next? (state : HostState) (c : Char) : Option HostState :=
  let state := { state with endsAtSign := c == '@' }
  if c = ':' then
    if maxColons ≤ state.colons then none else some { state with colons := state.colons + 1 }
  else if c = '[' then
    if state.hasPercent ∨ state.isOpened then none else some { state with isOpened := true }
  else if c = ']' then
    if !state.isOpened ∨ state.isClosed then none
    else some { state with isClosed := true, colons := 0, hasPercent := false }
  else if c = '@' then some { state with colons := 0, hasPercent := false }
  else if c = '%' then some { state with hasPercent := true }
  else if isHostChar c then some state
  else none

/-- Whether what has been seen is an address. -/
def HostState.isComplete (state : HostState) : Bool :=
  state.isOpened == state.isClosed && state.colons ≤ 1 && !state.endsAtSign && !state.hasPercent

/-- Whether a text is the address of a host, or empty. -/
def isAuthority (text : List Char) : Bool :=
  (text.foldlM HostState.next? {}).any HostState.isComplete

/-! ## Paths -/

/-- The path of a path with a query. What is behind a number sign does not count, and a missing path
is that of the root. -/
def pathOfOrigin? (text : List Char) : Option (List Char) :=
  let text := text.takeWhile (· != '#')
  let path := text.takeWhile (· != '?')
  let query := text.drop (path.length + 1)
  let fits := path.all (fun c => isPathChar c && c != '\x60') &&
    query.all (fun c => isPathChar c && c != '"')
  if fits then some (if path = [] then ['/'] else path) else none

/-- How long the name of a scheme may be. -/
def maxSchemeLength : Nat := 64

/-- The path of a target without a path at its start. The address of a host alone has an empty
path. -/
def pathOfAddress? (text : List Char) : Option (List Char) :=
  let scheme := text.takeWhile isSchemeChar
  match text.dropWhile isSchemeChar with
  | ':' :: '/' :: '/' :: rest =>
    let authority := rest.takeWhile fun c => c != '/' && c != '?' && c != '#'
    if scheme.length ≤ maxSchemeLength ∧ authority ≠ [] ∧ isAuthority authority then
      pathOfOrigin? (rest.drop authority.length)
    else none
  | _ => if isAuthority text then some [] else none

/-- How many bytes a target may have. -/
def maxSize : Nat := 65534

/-- The path of a target. -/
def path? (target : String) : Option (List Char) :=
  if maxSize < target.utf8ByteSize then none
  else
    match target.toList with
    | [] => none
    | ['*'] => some ['*']
    | '/' :: rest => pathOfOrigin? ('/' :: rest)
    | text => pathOfAddress? text

end Criteria.RequestTarget
