import BlocklistWatch.Text.Affix
import BlocklistWatch.Text.Pieces
import BlocklistWatch.Text.Unprintable
import BlocklistWatch.Web.Percent

/-!
# Hosts

Whether a text can be the host of a web address: a domain name, an IPv4 address in any of its old
spellings, or an IPv6 address in brackets.

* `checkHost` says what is wrong with a host, if anything.
-/

namespace BlocklistWatch.Web

inductive UrlError where
  | noBase
  | emptyHost
  | badPort
  | badDomain
  | badIpv4
  | badIpv6
deriving DecidableEq, Repr

def UrlError.message : UrlError → String
  | noBase => "relative URL without a base"
  | emptyHost => "empty host"
  | badPort => "invalid port number"
  | badDomain => "invalid international domain name"
  | badIpv4 => "invalid IPv4 address"
  | badIpv6 => "invalid IPv6 address"

/-! ## IPv4 -/

def ipv4Part? (cs : List Char) : Option Nat :=
  let digits (base : Nat) (cs : List Char) : Option Nat :=
    cs.foldl (fun n c => do
      let v ← Text.hexValue? c
      if v < base then return (← n) * base + v else none) (some 0)
  match cs with
  | [] => none
  | '0' :: 'x' :: rest | '0' :: 'X' :: rest => digits 16 rest
  | '0' :: d :: rest => digits 8 (d :: rest)
  | cs => digits 10 cs

def endsInNumber (labels : List (List Char)) : Bool :=
  let labels := match labels.reverse with
    | [] :: rest => rest
    | all => all
  match labels with
  | [] => false
  | last :: _ =>
    (last ≠ [] && last.all Text.isDigit) ||
      match Text.stripPrefix? ['0', 'x'] (last.map Text.foldChar) with
      | some rest => rest.all fun c => (Text.hexValue? c).isSome
      | none => false

/-- Whether the values of the parts fit into four bytes: all but the last are single bytes, the last
one fills the rest. -/
def partsFit : Nat → List Nat → Bool
  | _, [] => true
  | room, [last] => last < Nat.pow 256 room
  | room, p :: ps => p < 256 && partsFit (room - 1) ps

def isIpv4Host (labels : List (List Char)) : Bool :=
  let labels := match labels.reverse with
    | [] :: rest => rest.reverse
    | _ => labels
  labels.length ≤ 4 &&
    match labels.mapM ipv4Part? with
    | some parts => partsFit 4 parts
    | none => false

/-! ## IPv6 -/

/-- The number of groups of a colon-separated run, if all of them are groups; the last one may be an
IPv4 address, which counts as two. -/
def groupCount? (ipv4Allowed : Bool) : List (List Char) → Option Nat
  | [] => some 0
  | [last] =>
    if last.contains '.' then
      if ipv4Allowed && isPlainIpv4 last then some 2 else none
    else if isGroup last then some 1 else none
  | g :: gs => if isGroup g then (groupCount? ipv4Allowed gs).map (· + 1) else none
where
  isGroup (cs : List Char) : Bool :=
    cs ≠ [] && cs.length ≤ 4 && cs.all fun c => (Text.hexValue? c).isSome
  isPlainIpv4 (cs : List Char) : Bool :=
    let parts := Text.cutAt '.' cs
    parts.length == 4 && parts.all fun p =>
      p ≠ [] && p.all Text.isDigit && (p.head? ≠ some '0' || p.length == 1) &&
        Text.digitsValue p ≤ 255

def splitDoubleColon : List Char → Option (List Char × List Char)
  | ':' :: ':' :: rest => some ([], rest)
  | c :: cs => (splitDoubleColon cs).map fun (front, rest) => (c :: front, rest)
  | [] => none

def groupsOf (cs : List Char) : List (List Char) :=
  if cs = [] then [] else Text.cutAt ':' cs

def isIpv6 (cs : List Char) : Bool :=
  match splitDoubleColon cs with
  | none => groupCount? true (groupsOf cs) == some 8
  | some (front, rest) =>
    match groupCount? false (groupsOf front), groupCount? true (groupsOf rest) with
    | some m, some n => m + n ≤ 7
    | _, _ => false

/-! ## Domains -/

def isForbiddenInDomain (c : Char) : Bool :=
  c.toNat ≤ 0x20 || c.toNat == 0x7F ||
    ['#', '%', '/', ':', '<', '>', '?', '@', '[', '\\', ']', '^', '|'].contains c ||
    c == replacement || (0x7F < c.toNat && Text.isUnprintable c && c != '\u00AD')

def checkHost (cs : List Char) : Option UrlError :=
  match cs with
  | '[' :: rest =>
    match rest.reverse with
    | ']' :: inner => if isIpv6 inner.reverse then none else some .badIpv6
    | _ => some .badIpv6
  | cs =>
    let domain := decodeBytes none (percentDecode cs)
    let plain := domain.filter (· != '\u00AD')
    if domain.any isForbiddenInDomain then some .badDomain
    else if plain = [] then some .emptyHost
    else
      let labels := Text.cutAt '.' plain
      if endsInNumber labels && !isIpv4Host labels then some .badIpv4 else none

end BlocklistWatch.Web
