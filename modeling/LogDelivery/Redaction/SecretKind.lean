import LogDelivery.Pattern.Basic
import LogDelivery.Text.Basic
import LogDelivery.Text.LowerCase

/-!
# Kinds of sensitive data

Three kinds of data that are known without configuration, with the patterns that find them. Each pattern
begins and ends at the boundary of a word.
-/
namespace LogDelivery

inductive SecretKind where
  | creditCard | ssn | ip
  deriving DecidableEq, Repr

namespace SecretKind

open Pattern Unicode

def all : List SecretKind := [.creditCard, .ssn, .ip]

def label : SecretKind → String
  | .creditCard => "creditcard"
  | .ssn => "ssn"
  | .ip => "ip"

def normalized (s : String) : String := Text.asciiLower (Text.trimmed s)

def ofText? (s : String) : Option SecretKind :=
  match normalized s with
  | "creditcard" | "credit_card" | "credit-card" => some .creditCard
  | "ssn" => some .ssn
  | "ip" | "ipv4" | "ip_address" => some .ip
  | _ => none

def unknownMessage (s : String) : String := "unknown mask category: " ++ normalized s

/-- One ASCII character between two. -/
def between (lo hi : Char) : Pattern := .one ⟨[(lo.toNat, hi.toNat)]⟩

def char (c : Char) : Pattern := .one (.single c)

def literal (s : String) : Pattern := .seqs (s.toList.map char)

def digit : Pattern := between '0' '9'

def digits (n : Nat) : Pattern := .times n digit

def isolated (parts : List Pattern) : Pattern :=
  .seqs (.look (.boundary true) :: parts ++ [.look (.boundary true)])

def visa : Pattern := isolated [char '4', digits 12, .opt true (digits 3)]

/-- The classic range and the one that starts with 2. -/
def mastercard : Pattern := isolated [
  .eithers [
    .seqs [char '5', between '1' '5', digits 2],
    .seqs [literal "222", between '1' '9'],
    .seqs [literal "22", between '3' '9', digit],
    .seqs [char '2', between '3' '6', digits 2],
    .seqs [literal "27", between '0' '1', digit],
    literal "2720"],
  digits 12]

def amex : Pattern := isolated [char '3', .one ⟨[(0x34, 0x34), (0x37, 0x37)]⟩, digits 13]

def diners : Pattern := isolated [
  char '3',
  .eithers [
    .seqs [char '0', between '0' '5'],
    .seqs [.one ⟨[(0x36, 0x36), (0x38, 0x38)]⟩, digit]],
  digits 11]

def discover : Pattern := isolated [
  char '6',
  .eithers [literal "011", .seqs [char '5', digits 2]],
  digits 12]

def jcb : Pattern := isolated [
  .eithers [literal "2131", literal "1800", .seqs [literal "35", digits 3]],
  digits 11]

def grouped : Pattern :=
  let gap : Pattern := .one ⟨[(0x20, 0x20), (0x2D, 0x2D)]⟩
  isolated [digits 4, gap, digits 4, gap, digits 4, gap, digits 4]

def ssnNumber : Pattern := isolated [digits 3, char '-', digits 2, char '-', digits 4]

/-- A number below 256, with leading zeros as long as there are at most three digits. -/
def octet : Pattern := .eithers [
  .seqs [literal "25", between '0' '5'],
  .seqs [char '2', between '0' '4', digit],
  .seqs [.opt true (between '0' '1'), digit, .opt true digit]]

def address : Pattern :=
  isolated [octet, char '.', octet, char '.', octet, char '.', octet]

def patterns : SecretKind → List Pattern
  | .creditCard => [visa, mastercard, amex, diners, discover, jcb, grouped]
  | .ssn => [ssnNumber]
  | .ip => [address]

end SecretKind
end LogDelivery
