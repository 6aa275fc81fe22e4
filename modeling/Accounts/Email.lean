import Accounts.Hostname.Ascii
import Accounts.IpAddress

/-!
# E-mail addresses

An address is a user and a domain with an at sign between them. The domain has a dot in it; it
is a host name, ends in an IP address in brackets, or has an ASCII form that is one of these.
-/

namespace Accounts

structure Email where
  address : String
  deriving DecidableEq, Repr

/-- A text that is no address, without the blanks around it. -/
structure EmailError where
  text : String
  deriving DecidableEq, Repr

def EmailError.message (e : EmailError) : String :=
  "invalid email address: '" ++ e.text ++ "'"

namespace Email

/-- The longest user and the longest domain, in characters. -/
def maxUser : Nat := 64
def maxDomain : Nat := 255

def maxLabel : Nat := 63

/-- Letters and digits of ASCII, and the signs that may stand among them. -/
def isUserChar (c : Char) : Bool :=
  c.isAlphanum || ".!#$%&'*+/=?^_`\x7b|\x7d~-".toList.contains c

/-- A label of a host name begins and ends with a letter or a digit of ASCII. -/
def isLabel (cs : List Char) : Bool :=
  cs.length ≤ maxLabel && cs.all (fun c => c.isAlphanum || c == '-') &&
    cs.head?.any Char.isAlphanum && cs.getLast?.any Char.isAlphanum

def isHostname (cs : List Char) : Bool :=
  (Text.pieces '.' cs).all isLabel

/-- What stands in front of the last `sep`, and what stands behind it. -/
def splitLast (sep : Char) : List Char → Option (List Char × List Char)
  | [] => none
  | c :: rest =>
    match splitLast sep rest with
    | some (front, back) => some (c :: front, back)
    | none => if c = sep then some ([], rest) else none

/-- Whether a text ends in an IP address in brackets. -/
def endsInLiteral (cs : List Char) : Bool :=
  match splitLast '[' cs with
  | some (_, back) => back.getLast? == some ']' && IpAddress.isValid back.dropLast
  | none => false

def isDomain (cs : List Char) : Bool :=
  isHostname cs || endsInLiteral cs

/-- Whether a text is an address, given the ASCII forms of host names. -/
def isAddress (toAscii? : String → Option String) (cs : List Char) : Bool :=
  match splitLast '@' cs with
  | none => false
  | some (user, domain) =>
    domain.contains '.' && user.length ≤ maxUser && domain.length ≤ maxDomain &&
      !user.isEmpty && user.all isUserChar &&
      (isDomain domain || (toAscii? (String.ofList domain)).any fun name => isDomain name.toList)

/-- Blanks around an address are ignored. -/
def parseWith (toAscii? : String → Option String) (s : String) : Except EmailError Email :=
  let trimmed := Text.trim s
  if isAddress toAscii? trimmed.toList then .ok ⟨trimmed⟩ else .error ⟨trimmed⟩

def parse (s : String) : Except EmailError Email :=
  parseWith Hostname.toAscii? s

end Email

end Accounts
