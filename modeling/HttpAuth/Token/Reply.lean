import HttpAuth.Json.Skip
import HttpAuth.Time.Timestamp

namespace HttpAuth

open Json (Lexeme)
open Time (Instant)

/-- A JSON object with these members, all optional, or an array of the four values in this order. Members of
other names do not count. -/
structure TokenReply where
  token? : Option String := none
  accessToken? : Option String := none
  expiresIn? : Option Int := none
  issuedAt? : Option Instant := none
deriving DecidableEq

namespace TokenReply

inductive Member where
  | token
  | accessToken
  | expiresIn
  | issuedAt
deriving DecidableEq, Repr

namespace Member

def ofKey? (key : String) : Option Member :=
  match key with
  | "token" => some token
  | "access_token" => some accessToken
  | "expires_in" => some expiresIn
  | "issued_at" => some issuedAt
  | _ => none

end Member

def minInteger : Int := -9223372036854775808

def maxInteger : Int := 9223372036854775807

/-- Sets a member from its value; null leaves it absent. -/
def read? (reply : TokenReply) (m : Member) (value : Lexeme) : Option TokenReply :=
  match m, value with
  | _, .null => some reply
  | .token, .string (some s) => some { reply with token? := some s }
  | .accessToken, .string (some s) => some { reply with accessToken? := some s }
  | .expiresIn, .number (some n) =>
    if minInteger ≤ n ∧ n ≤ maxInteger then some { reply with expiresIn? := some n } else none
  | .issuedAt, .string (some s) =>
    (Instant.parse? s).map fun i => { reply with issuedAt? := some i }
  | _, _ => none

theorem length_skipFrom_lt {expected : Json.Expected} {stack : List Json.Container}
    {lexemes rest : List Lexeme} (h : Json.skipFrom expected stack lexemes = some rest) :
    rest.length < lexemes.length := by
  induction lexemes generalizing expected stack with
  | nil => simp [Json.skipFrom] at h
  | cons l tail ih =>
    simp only [Json.skipFrom] at h
    split at h
    · simp at h
    · simp only [Option.some.injEq] at h
      subst h
      simp
    · exact Nat.lt_trans (ih h) (by simp)

/-- Reads the members of an object from the first key on, and then the end of the text. A known member may
come once. -/
def readMembers (reply : TokenReply) (seen : List Member) (lexemes : List Lexeme) :
    Option TokenReply :=
  match lexemes with
  | .string (some key) :: .colon :: rest =>
    match Member.ofKey? key with
    | some m =>
      match rest with
      | value :: after =>
        if m ∈ seen then none
        else match reply.read? m value, after with
          | some next, .comma :: more => readMembers next (m :: seen) more
          | some next, [.endObject] => some next
          | _, _ => none
      | [] => none
    | none =>
      match _h : Json.skipValue rest with
      | some (.comma :: more) => readMembers reply seen more
      | some [.endObject] => some reply
      | _ => none
  | _ => none
termination_by lexemes.length
decreasing_by
  · simp
    omega
  · have := length_skipFrom_lt _h
    simp at this ⊢
    omega

def ofLexemes? (lexemes : List Lexeme) : Option TokenReply :=
  match lexemes with
  | [.beginObject, .endObject] => some {}
  | .beginObject :: rest => readMembers {} [] rest
  | [.beginArray, a, .comma, b, .comma, c, .comma, d, .endArray] => do
    let reply ← read? {} .token a
    let reply ← reply.read? .accessToken b
    let reply ← reply.read? .expiresIn c
    reply.read? .issuedAt d
  | _ => none

def decode? (body : List UInt8) : Option TokenReply := (Json.lexemes? body).bind ofLexemes?

end TokenReply

end HttpAuth
