import ConnectionUri.Log.Journal

/-!
# Records that can be formatted

A filter fails only on a record whose arguments do not fit its template, and what it makes of any
other record can be formatted again. So records that can be formatted pass all filters and handlers,
and `logAll_of_formats` says that logging them never fails.
-/

set_option autoImplicit false

namespace ConnectionUri.Log

/-- The arguments of a record fit its template. -/
def Record.Formats (record : Record) : Prop := ∃ message, record.message = .ok message

theorem Record.formats_of_no_arguments {record : Record} (bare : record.arguments = []) :
    record.Formats := by
  refine ⟨record.template, ?_⟩
  rw [message, bare]
  rfl

namespace Record.Formats

variable {record : Record}

theorem redacted (formats : record.Formats) :
    ∃ redacted, record.redacted = .ok redacted ∧ redacted.Formats := by
  obtain ⟨message, written⟩ := formats
  refine ⟨{ record with template := Redaction.redact message, arguments := [] }, ?_,
    formats_of_no_arguments rfl⟩
  rw [Record.redacted, written]
  rfl

theorem applyFilters (formats : record.Formats) (filters : List Filter) :
    ∃ filtered, applyFilters filters record = .ok filtered ∧ filtered.Formats := by
  induction filters generalizing record with
  | nil => exact ⟨record, rfl, formats⟩
  | cons filter rest ih =>
      cases filter with
      | redaction =>
          obtain ⟨redacted, written, redactedFormats⟩ := formats.redacted
          obtain ⟨filtered, passed, filteredFormats⟩ := ih redactedFormats
          refine ⟨filtered, ?_, filteredFormats⟩
          rw [Log.applyFilters, written]
          exact passed

theorem passTo (formats : record.Formats) (stamp : Text) (handlers : List Handler) :
    (passTo stamp handlers record).error = none := by
  induction handlers generalizing record with
  | nil => rfl
  | cons handler rest ih =>
      obtain ⟨filtered, passed, filteredFormats⟩ := formats.applyFilters handler.filters
      rw [Log.passTo, passed]
      exact ih filteredFormats

end Record.Formats

theorem lastResort_error (record : Record) : (lastResort record).error = none := by
  unfold lastResort
  split
  · rfl
  · split
    · rfl
    · rfl

theorem Record.Formats.log {record : Record} (formats : record.Formats) (root : Root)
    (stamp : Text) : (root.log stamp record).error = none := by
  obtain ⟨filtered, passed, filteredFormats⟩ :
      ∃ filtered, (if record.isRoot then Log.applyFilters root.filters record else .ok record) =
        .ok filtered ∧ filtered.Formats := by
    cases record.isRoot with
    | true => exact formats.applyFilters root.filters
    | false => exact ⟨record, rfl, formats⟩
  unfold Root.log
  rw [passed]
  split
  · rfl
  · simp only []
    split
    · exact lastResort_error filtered
    · exact filteredFormats.passTo stamp root.handlers

/-- Logging records that can be formatted never fails. -/
theorem Journal.logAll_of_formats {records : List Record}
    (formats : ∀ record ∈ records, record.Formats) (stamp : Text) (journal : Journal) :
    (journal.logAll stamp records).1 = none := by
  induction records generalizing journal with
  | nil => rfl
  | cons record rest ih =>
      have passed : (journal.log stamp record).1 = none :=
        (formats record List.mem_cons_self).log journal.root stamp
      rw [logAll]
      cases logged : journal.log stamp record with
      | mk error next =>
          rw [logged] at passed
          cases passed
          exact ih (fun other member => formats other (List.mem_cons_of_mem record member)) next

end ConnectionUri.Log

/-!
## Computations
-/

namespace ConnectionUri.Log.Traced

variable {ε δ α β : Type}

/-- Every record that a computation leaves can be formatted. -/
def Formats (run : Traced ε α) : Prop := ∀ record ∈ run.records, record.Formats

namespace Formats

theorem of_nil {run : Traced ε α} (silent : run.records = []) : run.Formats := by
  intro record member
  rw [silent] at member
  cases member

theorem mapError {run : Traced ε α} (formats : run.Formats) (change : ε → δ) :
    (run.mapError change).Formats := formats

theorem bind {first : Traced ε α} {next : α → Traced ε β} (ofFirst : first.Formats)
    (ofNext : ∀ value, (next value).Formats) : (first >>= next).Formats := by
  intro record member
  cases found : first.result with
  | error error =>
      simp only [Bind.bind, andThen, found] at member
      exact ofFirst record member
  | ok value =>
      simp only [Bind.bind, andThen, found, List.mem_append] at member
      rcases member with member | member
      · exact ofFirst record member
      · exact ofNext value record member

end Formats

end ConnectionUri.Log.Traced
