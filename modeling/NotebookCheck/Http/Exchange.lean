import NotebookCheck.Fault
import NotebookCheck.Json

namespace NotebookCheck.Http

def reasonPhrases : List (Nat × String) :=
  [(100, "Continue"), (101, "Switching Protocols"), (102, "Processing"), (103, "Early Hints"),
    (200, "OK"), (201, "Created"), (202, "Accepted"), (203, "Non Authoritative Information"),
    (204, "No Content"), (205, "Reset Content"), (206, "Partial Content"),
    (207, "Multi-Status"), (208, "Already Reported"), (226, "IM Used"),
    (300, "Multiple Choices"), (301, "Moved Permanently"), (302, "Found"), (303, "See Other"),
    (304, "Not Modified"), (305, "Use Proxy"), (307, "Temporary Redirect"),
    (308, "Permanent Redirect"), (400, "Bad Request"), (401, "Unauthorized"),
    (402, "Payment Required"), (403, "Forbidden"), (404, "Not Found"),
    (405, "Method Not Allowed"), (406, "Not Acceptable"),
    (407, "Proxy Authentication Required"), (408, "Request Timeout"), (409, "Conflict"),
    (410, "Gone"), (411, "Length Required"), (412, "Precondition Failed"),
    (413, "Payload Too Large"), (414, "URI Too Long"), (415, "Unsupported Media Type"),
    (416, "Range Not Satisfiable"), (417, "Expectation Failed"), (418, "I'm a teapot"),
    (421, "Misdirected Request"), (422, "Unprocessable Entity"), (423, "Locked"),
    (424, "Failed Dependency"), (425, "Too Early"), (426, "Upgrade Required"),
    (428, "Precondition Required"), (429, "Too Many Requests"),
    (431, "Request Header Fields Too Large"), (451, "Unavailable For Legal Reasons"),
    (500, "Internal Server Error"), (501, "Not Implemented"), (502, "Bad Gateway"),
    (503, "Service Unavailable"), (504, "Gateway Timeout"),
    (505, "HTTP Version Not Supported"), (506, "Variant Also Negotiates"),
    (507, "Insufficient Storage"), (508, "Loop Detected"), (510, "Not Extended"),
    (511, "Network Authentication Required")]

def statusLine (code : Nat) : String :=
  s!"{code} " ++ (reasonPhrases.lookup code).getD "<unknown status code>"

def switchingProtocols : Nat := 101

def notModified : Nat := 304

def hasBody (code : Nat) : Bool := 200 ≤ code && code ≠ 204 && code ≠ notModified

def isErrorStatus (code : Nat) : Bool := 400 ≤ code && code < 600

inductive Method where
  | get
  | post
deriving Repr, DecidableEq, Inhabited

def Method.name : Method → String
  | get => "GET"
  | post => "POST"

structure Request where
  method : Method
  path : String
  query : List (String × String) := []
  body : Option Json := none
deriving Inhabited

structure Exchange (Q α : Type) where
  queries : List Q
  result : Except Fault α
deriving Inhabited

namespace Exchange

variable {Q α β ρ : Type}

def ofExcept (result : Except Fault α) : Exchange Q α := ⟨[], result⟩

def thenDo (x : Exchange Q α) (f : α → Exchange Q β) : Exchange Q β :=
  match x.result with
  | .error fault => ⟨x.queries, .error fault⟩
  | .ok a =>
      let y := f a
      ⟨x.queries ++ y.queries, y.result⟩

instance : Monad (Exchange Q) where
  pure a := ofExcept (.ok a)
  bind := thenDo

def ask (server : Q → ρ) (query : Q) : Exchange Q ρ := ⟨[query], .ok (server query)⟩

@[simp] theorem result_ofExcept (r : Except Fault α) :
    (ofExcept r : Exchange Q α).result = r := rfl

theorem result_bind_of_ok {x : Exchange Q α} (f : α → Exchange Q β) {a : α}
    (h : x.result = .ok a) : (x >>= f).result = (f a).result := by
  change (x.thenDo f).result = _
  simp only [thenDo, h]

theorem result_bind_of_error {x : Exchange Q α} (f : α → Exchange Q β) {fault : Fault}
    (h : x.result = .error fault) : (x >>= f).result = .error fault := by
  change (x.thenDo f).result = _
  simp only [thenDo, h]

theorem result_bind_eq_ok_iff {x : Exchange Q α} {f : α → Exchange Q β} {b : β} :
    (x >>= f).result = .ok b ↔ ∃ a, x.result = .ok a ∧ (f a).result = .ok b := by
  cases h : x.result with
  | error fault => simp [result_bind_of_error f h]
  | ok a => simp [result_bind_of_ok f h]

theorem result_bind_eq_error_iff {x : Exchange Q α} {f : α → Exchange Q β} {fault : Fault} :
    (x >>= f).result = .error fault ↔
      x.result = .error fault ∨ ∃ a, x.result = .ok a ∧ (f a).result = .error fault := by
  cases h : x.result with
  | error found => simp [result_bind_of_error f h]
  | ok a => simp [result_bind_of_ok f h]

end Exchange

end NotebookCheck.Http
