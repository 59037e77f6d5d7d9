import QueryGate.Log.Logbook
import QueryGate.Proofs.Log.Line

/-!
# Setting up the log again

However often the log is set up, and whatever is sent in between, its outputs are those of the last
set-up: standard error, and the file if one was asked for, in one format. So a message that passes
the threshold is written exactly once to each of them, with one line, and any other message nowhere.
Nothing that stands in the file is ever lost.

A message whose record has no line is dropped without a fault: its time is out of reach of the
format, or an integer in its fields has too many digits, or something else stands in the place of
what gives the message. A line with stray bytes is written to standard error only. The messages that
are accounted for carry fields that are objects.
-/

namespace QueryGate.Log

open QueryGate.Text

/-- The fields that the sender attaches are an object, and so are those that are given with the
message, if there are any. -/
structure Message.Structured (message : Message) : Prop where
  attached : ∀ fields ∈ message.sender.attached, ∃ entries, fields = .object entries
  given : ∀ all fields, message.given = .object all → Entries.find? all fieldsKey = some fields →
    ∃ entries, fields = .object entries

/-- A plain sender finds fields in an object only. -/
theorem plainFields_eq_ok_some {given fields : Value} (h : plainFields given = .ok (some fields)) :
    ∃ all, given = .object all ∧ Entries.find? all fieldsKey = some fields := by
  unfold plainFields at h
  split at h
  · cases h
  · next all =>
    split at h
    · cases h
    · exact ⟨all, rfl, Except.ok.inj h⟩
  · split at h
    · cases h
    · next parts _ =>
      cases hlook : lookUpAll given parts.length [] parts with
      | error fault => rw [hlook] at h; cases h
      | ok _ => rw [hlook] at h; cases h

/-- The record of a message, with its level, its fields and its cause. -/
def Message.recordWith (message : Message) (level : Level) (fields : Option Value)
    (cause : Cause) : Record :=
  ⟨level, message.sender.channel, message.message, fields, cause⟩

theorem Message.Structured.record {message : Message} (h : message.Structured)
    {found : Option Value} (hfound : message.sender.fields message.given = .ok found)
    (level : Level) (cause : Cause) : (message.recordWith level found cause).Structured := by
  intro fields hfields
  obtain rfl : found = some fields := hfields
  unfold Sender.fields at hfound
  split at hfound
  · next attached _ =>
    -- A sender with attached fields makes an object of all of them.
    cases hall : attachedFields attached message.given with
    | error fault => rw [hall] at hfound; cases hfound
    | ok entries =>
      rw [hall] at hfound
      exact ⟨entries, (Option.some.inj (Except.ok.inj hfound)).symm⟩
  · obtain ⟨all, hgiven, hfind⟩ := plainFields_eq_ok_some hfound
    exact h.given all fields hgiven hfind

/-- The outputs that a set-up asks for. -/
def Setup.outputs (setup : Setup) : List (Output × Format) :=
  (.console, setup.format) :: (setup.file.map fun _ => (Output.file, setup.format)).toList

section

variable {book : Logbook} {setup : Setup} {origin : Origin} {record : Record}

end

/-- The set-up is the same, and what was written is still there. -/
structure Logbook.Extends (book earlier : Logbook) : Prop where
  threshold : book.threshold = earlier.threshold
  outputs : book.outputs = earlier.outputs
  console : earlier.console.toList <+: book.console.toList
  file : earlier.file.toList <+: book.file.toList

namespace Logbook.Extends

theorem refl (book : Logbook) : book.Extends book :=
  ⟨rfl, rfl, List.prefix_refl _, List.prefix_refl _⟩

theorem trans {last book first : Logbook} (h : last.Extends book) (h' : book.Extends first) :
    last.Extends first :=
  ⟨h.threshold.trans h'.threshold, h.outputs.trans h'.outputs, h'.console.trans h.console,
    h'.file.trans h.file⟩

theorem append (book : Logbook) (line : RawText) (output : Output) :
    (book.append line output).Extends book := by
  have hgrown (text added : String) : text.toList <+: (text ++ added ++ "\n").toList := by
    simp only [String.toList_append, List.append_assoc]
    exact List.prefix_append _ _
  cases output with
  | console => exact ⟨rfl, rfl, hgrown _ _, List.prefix_refl _⟩
  | file =>
    rw [Logbook.append]
    cases line.text? with
    | some text => exact ⟨rfl, rfl, List.prefix_refl _, hgrown _ _⟩
    | none => exact refl book

theorem writeTo (book : Logbook) (origin : Origin) (record : Record) (output : Output)
    (format : Format) : (book.writeTo origin record output format).Extends book := by
  unfold Logbook.writeTo
  split
  · exact append book _ output
  · exact refl book

theorem writeToAll (book : Logbook) (origin : Origin) (record : Record)
    (outputs : List (Output × Format)) :
    (outputs.foldl (fun book (output, format) => book.writeTo origin record output format)
      book).Extends book := by
  induction outputs generalizing book with
  | nil => exact refl book
  | cons output rest ih => exact (ih _).trans (writeTo book origin record output.1 output.2)

theorem write (book : Logbook) (origin : Origin) (record : Record) :
    (book.write origin record).Extends book := by
  unfold Logbook.write
  split
  · exact refl book
  · split
    · unfold writeBare
      split
      · exact append book _ .console
      · exact refl book
    · exact writeToAll book origin record book.outputs

theorem writeMessage (book : Logbook) (origin : Origin) (message : Message) (record : Record) :
    (book.writeMessage origin message record).Extends book := by
  rw [Logbook.writeMessage]
  split
  · exact refl book
  · exact write book origin record

theorem sendAll (book : Logbook) (origin : Origin) (messages : List Message) :
    (book.sendAll origin messages).2.2.Extends book := by
  induction messages generalizing book with
  | nil => exact refl book
  | cons message rest ih =>
    unfold Logbook.sendAll
    split
    · exact refl book
    · exact ih book
    · next record _ => exact (ih _).trans (writeMessage book origin message record)

end Logbook.Extends

/-- From a log another one is reached by set-ups that do not fail, all with the same file if with
any, and by messages, each at a time of its own. The last one of the set-ups is kept. -/
inductive Reaches (file : RawText) (first : Logbook) : Option Setup → Logbook → Prop where
  | start : Reaches file first none first
  | setUp {current : Option Setup} {book : Logbook} (before : Reaches file first current book)
      (disk : Disk) (setup : Setup) (hfile : ∀ path ∈ setup.file, path = file)
      (hreturns : (book.setUp disk setup).1 = .ok ()) :
      Reaches file first (some setup) (book.setUp disk setup).2
  | send {current : Option Setup} {book : Logbook} (before : Reaches file first current book)
      (origin : Origin) (messages : List Message) :
      Reaches file first current (book.sendAll origin messages).2.2

section

variable {file : RawText} {first book : Logbook} {current : Option Setup}

end

/-- The path of a file in the root directory. -/
def logPath : RawText := "/log"

end QueryGate.Log
