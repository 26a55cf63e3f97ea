import Tagwire.Error

namespace Tagwire

structure TagRecord where
  filename : String
  tag : String
  line : UInt64
  offset : UInt64
  snippet : String
deriving DecidableEq

namespace Reply

def messageOf (payload : Sexp) : Option String :=
  match Alist.ofSexp payload with
  | .ok entries => entries.string? "message"
  | .error _ => none

/-- The message of an error: a payload `((message "..."))` or `(message "...")`, and otherwise the
payload as it is printed. -/
def errorText (payload : List Sexp) : String :=
  match payload.head?.bind messageOf with
  | some text => text
  | none =>
    match messageOf (.list payload) with
    | some text => text
    | none => " ".intercalate (payload.map Sexp.text)

def errorForm? : Sexp → Option String
  | .list (.symbol "error" :: payload) => some (errorText payload)
  | _ => none

def fields (reply : String) : Except TagError Alist :=
  match Sexp.read reply with
  | .error e => .error (.unreadable e)
  | .ok top =>
    match Alist.ofSexp top with
    | .error fault => .error (.violation (.alist fault))
    | .ok entries =>
      match entries.find? "error" with
      | some payload => .error (.server (errorText [payload]))
      | none => .ok entries

def stringField (entries : Alist) (key : String) : Except Violation String :=
  match entries.find? key with
  | none => .error (.missingField key)
  | some (.string text) => .ok text
  | some other => .error (.fieldNotString key other)

def integerField (entries : Alist) (key : String) : Except Violation UInt64 :=
  match entries.find? key with
  | none => .error (.missingField key)
  | some (.integer value) => .ok value
  | some other => .error (.fieldNotInteger key other)

def tagRecord (element : Sexp) : Except Violation TagRecord := do
  let entries ← (Alist.ofSexp element).mapError Violation.alist
  let filename ← stringField entries "filename"
  let tag ← stringField entries "tag"
  let line ← integerField entries "lineno"
  let offset ← integerField entries "offset"
  let snippet ← stringField entries "snippet"
  return ⟨filename, tag, line, offset, snippet⟩

def accepted (elements : List Sexp) : Except TagError (List Sexp) :=
  match elements.findSome? errorForm? with
  | some text => .error (.server text)
  | none => .ok elements

def tagRecords (reply : String) : Except TagError (List TagRecord) := do
  let entries ← fields reply
  match entries.find? "value" with
  | none => .error (.violation .noValue)
  | some (.symbol "nil") => .ok []
  | some (.list elements) =>
    let elements ← accepted elements
    (elements.mapM tagRecord).mapError .violation
  | some other => .error (.violation (.valueNotList other))

def status (reply : String) : Except TagError Sexp := do
  let entries ← fields reply
  match entries.find? "value" with
  | none => .ok (.list [])
  | some (.list elements) => (accepted elements).map Sexp.list
  | some other => .ok other

end Reply

end Tagwire
