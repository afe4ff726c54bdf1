import SdkGraft.Value.Basic
import SdkGraft.Text.Blank

/-!
# Client credentials

* `Credential.problem?` : why a text cannot stand inside a string literal of the inserted code;
* `Credentials` : a client's identifier and secret, both fit to be inserted;
* `Credentials.validate` : the values a user gave, trimmed and checked, the identifier first;
* `CredentialError.message` : the wording of a refusal.
-/

namespace SdkGraft

inductive CredentialField where
  | clientId
  | clientSecret
  deriving DecidableEq, Repr

namespace CredentialField

def name : CredentialField → Text
  | .clientId => "client_id".toList
  | .clientSecret => "client_secret".toList

def label : CredentialField → Text
  | .clientId => "Client ID".toList
  | .clientSecret => "Client secret".toList

end CredentialField

inductive CredentialProblem where
  /-- Nothing is there, or nothing but blanks, or no text at all. -/
  | empty
  /-- A character that would end or bend a string literal. -/
  | forbidden (c : Char)
  /-- A character that does not print. -/
  | control
  deriving DecidableEq, Repr

structure CredentialError where
  field : CredentialField
  problem : CredentialProblem
  deriving DecidableEq, Repr

def CredentialError.message (e : CredentialError) : Text :=
  e.field.label ++ match e.problem with
    | .empty => " must not be empty.".toList
    | .forbidden c => " must not contain '".toList ++ c :: "'.".toList
    | .control => " must not contain control characters.".toList

namespace Credential

/-- A control character of the first 128. -/
def isControl (c : Char) : Bool := c.toNat < 0x20 || c.toNat == 0x7F

/-- Why the text cannot stand inside a string literal, if it cannot. -/
def problem? (t : Text) : Option CredentialProblem :=
  if t.isEmpty then some .empty
  else if t.contains '"' then some (.forbidden '"')
  else if t.contains '\\' then some (.forbidden '\\')
  else if t.any isControl then some .control
  else none

/-- A value as it will be inserted: a text without its outer blanks, if it can be inserted. -/
def check (v : Value) : Except CredentialProblem { t : Text // problem? t = none } :=
  match v with
  | .text t =>
    match h : problem? (Text.trim t) with
    | some problem => .error problem
    | none => .ok ⟨Text.trim t, h⟩
  | _ => .error .empty

end Credential

/-- The credentials of a client, fit to stand inside string literals. -/
structure Credentials where
  clientId : Text
  clientSecret : Text
  clientId_fit : Credential.problem? clientId = none
  clientSecret_fit : Credential.problem? clientSecret = none

/-- The credentials as a user gave them, or the first refusal. -/
def Credentials.validate (clientId clientSecret : Value) : Except CredentialError Credentials :=
  match Credential.check clientId with
  | .error problem => .error ⟨.clientId, problem⟩
  | .ok id =>
    match Credential.check clientSecret with
    | .error problem => .error ⟨.clientSecret, problem⟩
    | .ok secret => .ok ⟨id.1, secret.1, id.2, secret.2⟩

end SdkGraft
