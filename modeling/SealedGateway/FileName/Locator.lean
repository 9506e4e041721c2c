import SealedGateway.Decimal.Numeral
import SealedGateway.FileName.Address

/-!
# Names that are locators

The name of a file can be a locator: a scheme, possibly a host, and a path.  Only the scheme and
the path are kept, but a host that is written badly is refused.
-/

namespace SealedGateway

/-- The parts of a locator that tell what kind of file it names. -/
structure Locator where
  /-- The scheme in lower case, empty if there is none. -/
  scheme : List Char
  /-- The path, without a query, a fragment and parameters. -/
  path : List Char
deriving DecidableEq

namespace Locator

/-- Blanks and control characters, which are passed over at the head of a locator. -/
def isIgnoredAhead (char : Char) : Bool := char.toNat ≤ 32

/-- Characters that are passed over anywhere in a locator. -/
def isIgnored (char : Char) : Bool :=
  char = '\t' || char = '\r' || char = '\n'

/-- Whether a character is an ASCII letter. -/
def isLetter (char : Char) : Bool :=
  (65 ≤ char.toNat && char.toNat ≤ 90) || (97 ≤ char.toNat && char.toNat ≤ 122)

/-- Whether a character may stand in a scheme. -/
def isSchemeChar (char : Char) : Bool :=
  isLetter char || Text.isAsciiDigit char || char = '+' || char = '-' || char = '.'

/-- The scheme of a locator in lower case, and what follows it. -/
def splitScheme (chars : List Char) : List Char × List Char :=
  match Text.cutFirst? ':' chars with
  | some (first :: scheme, rest) =>
    if isLetter first && scheme.all isSchemeChar then
      ((first :: scheme).map Numeral.lowerAscii, rest)
    else ([], chars)
  | _ => ([], chars)

/-- Whether a character ends a host. -/
def endsHost (char : Char) : Bool :=
  char = '/' || char = '?' || char = '#'

/-- The host behind two slashes, empty if there are none, and what follows it. -/
def splitHost : List Char → List Char × List Char
  | '/' :: '/' :: rest => (rest.takeWhile (!endsHost ·), rest.dropWhile (!endsHost ·))
  | chars => ([], chars)

/-- The characters outside ASCII that compatibility forms turn into a mark of a locator. -/
def disguisedMarks : List Nat :=
  [0x2047, 0x2048, 0x2049, 0x2100, 0x2101, 0x2105, 0x2106, 0x2A74, 0xFE13, 0xFE16, 0xFE55, 0xFE56,
    0xFE5F, 0xFE6B, 0xFF03, 0xFF0F, 0xFF1A, 0xFF1F, 0xFF20]

/-- The fault of a host, if it has one: brackets that do not pair, a bad address in brackets, or a
character that stands for a mark of a locator. -/
def hostFault? (host : List Char) : Option ValueFault :=
  if host.contains '[' != host.contains ']' then some .unbalancedHost
  else
    let bracketed? := (Text.cutFirst? '[' host).map fun (_, behind) => Text.before ']' behind
    match bracketed?.bind Address.fault? with
    | some fault => some fault
    | none =>
      if host.any fun char => disguisedMarks.contains char.toNat then
        some (.disguisedHost (String.ofList host))
      else none

/-- The schemes whose last path segment can end in parameters. -/
def schemesWithParameters : List String :=
  ["", "ftp", "hdl", "prospero", "http", "imap", "https", "shttp", "rtsp", "rtsps", "rtspu", "sip",
    "sips", "mms", "sftp", "tel"]

/-- A path without the parameters of its last segment. -/
def withoutParameters (path : List Char) : List Char :=
  match Text.cutLast? '/' path with
  | some (folder, segment) => folder ++ '/' :: Text.before ';' segment
  | none => Text.before ';' path

/-- Reads a name as a locator. -/
def read (name : List Char) : Except ValueFault Locator :=
  let chars := (name.dropWhile isIgnoredAhead).filter (!isIgnored ·)
  let (scheme, rest) := splitScheme chars
  let (host, rest) := splitHost rest
  match hostFault? host with
  | some fault => .error fault
  | none =>
    let path := Text.before '?' (Text.before '#' rest)
    if schemesWithParameters.contains (String.ofList scheme) then
      .ok ⟨scheme, withoutParameters path⟩
    else .ok ⟨scheme, path⟩

end Locator
end SealedGateway
