import SegmentRules.Commerce.Predicate
import SegmentRules.Proofs.Calendar.Sorting
import SegmentRules.Proofs.Window

/-! # The bounds of windows as texts

A window starts with the fraction of a second that its clock shows, and the text of its start has
none. So a query can find a subscription that expires in the very second the window starts in,
which the window itself leaves out. -/
namespace SegmentRules

open Commerce (Predicate)

namespace Timestamp

theorem eq_second_iff {t : Timestamp} {seconds : Int} (whole : t.nanos = 0) :
    t = ⟨seconds, 0⟩ ↔ t.seconds = seconds := by
  constructor
  · rintro rfl
    rfl
  · rintro rfl
    rw [← whole]

/-- Behind the text of a time come the whole seconds behind the time, and the one that the time is a
fraction of. A leap second is written as the second it ends in, so it loses nothing. -/
theorem written_le_iff (start : Timestamp) {t : Timestamp} (whole : t.nanos = 0) :
    start.written.le t = true ↔ start.le t = true ∨
      t = ⟨start.seconds, 0⟩ ∧ 0 < start.nanos ∧ start.nanos < 1000000000 := by
  rw [eq_second_iff whole, le_iff, le_iff]
  cases hleap : start.isLeapSecond with
  | true =>
    have hnanos : 1000000000 ≤ start.nanos := by simpa [isLeapSecond] using hleap
    simp only [written, hleap, if_true]
    split <;> simp only <;> omega
  | false =>
    have hnanos : start.nanos < 1000000000 := by simpa [isLeapSecond] using hleap
    simp only [written_of_not_leap hleap]
    omega

theorem written_endOfDay (day : Int) : (endOfDay day).written = endOfDay day :=
  written_of_not_leap rfl

theorem second_le_endOfDay {t : Timestamp} {day : Int} (h : t.dayNumber ≤ day) :
    (⟨t.seconds, 0⟩ : Timestamp).le (endOfDay day) = true := by
  have hof := t.secondOfDay_lt
  have hclock := t.dayNumber_secondOfDay
  simp only [le_iff, endOfDay]
  omega

end Timestamp

namespace Window

variable {now : Instant} {days : UInt32} {offset : Int} {window : Window}

/-- A time lies between the times that the texts of a window's bounds denote. -/
def IsBetweenTexts (window : Window) (t : Timestamp) : Prop :=
  ∃ first last, Timestamp.ofBindingText? window.start.bindingText = some first ∧
    Timestamp.ofBindingText? window.finish.bindingText = some last ∧
    first.le t = true ∧ t.le last = true

theorem isBetweenTexts_iff {t : Timestamp} :
    window.IsBetweenTexts t ↔
      window.start.written.le t = true ∧ t.le window.finish.written = true := by
  simp [IsBetweenTexts, Timestamp.ofBindingText?_bindingText]

/-- Between the bounds that are bound for a window lie the whole seconds of the window; and the
second the window starts in, if it starts in the middle of it. -/
theorem between_texts_iff_contains (ends : endingInDays now days offset = .ok window)
    (selectors : List Selector) (statuses : List Status) (tableAlias : String)
    (columns : SubscriptionColumns) :
    (∃ products params,
      Predicate.render ⟨selectors, statuses, some window⟩ tableAlias columns =
        ⟨products ++ (" AND " ++ (tableAlias ++ "." ++ columns.status) ++ " = ? AND " ++
            (tableAlias ++ "." ++ columns.expiration) ++ " >= ? AND " ++
            (tableAlias ++ "." ++ columns.expiration) ++ " <= ?"),
          params ++ [.text Status.active.name, .text window.start.bindingText,
            .text window.finish.bindingText]⟩) ∧
    ∀ t : Timestamp, t.nanos = 0 →
      (window.IsBetweenTexts t ↔ window.contains t = true ∨
        t = ⟨window.start.seconds, 0⟩ ∧ 0 < window.start.nanos ∧
          window.start.nanos < 1000000000) := by
  refine ⟨⟨_, _, rfl⟩, ?_⟩
  intro t whole
  obtain rfl := endingInDays_eq_ok ends
  have hlast : ∀ t : Timestamp, t = ⟨(now.onSite offset).seconds, 0⟩ →
      t.le (.endOfDay ((now.onSite offset).dayNumber + days.toNat)) = true := by
    rintro t rfl
    exact Timestamp.second_le_endOfDay (by omega)
  rw [isBetweenTexts_iff, Timestamp.written_endOfDay, Timestamp.written_le_iff _ whole, contains,
    Bool.and_eq_true]
  constructor
  · rintro ⟨hstart | hsecond, hfinish⟩
    · exact .inl ⟨hstart, hfinish⟩
    · exact .inr hsecond
  · rintro (⟨hstart, hfinish⟩ | hsecond)
    · exact ⟨.inl hstart, hfinish⟩
    · exact ⟨.inr hsecond, hlast t hsecond.1⟩

/-- Half a second after half past ten on a first of March. -/
def halfSecondLate : Instant := ⟨⟨63939623400, 500000000⟩⟩

theorem between_texts_half_second_late :
    ∃ window, endingInDays halfSecondLate 7 0 = .ok window ∧
      window.start.bindingText = "2026-03-01 22:30:00" ∧
      ∀ t : Timestamp, t.nanos = 0 →
        (window.IsBetweenTexts t ↔ window.contains t = true ∨
          t = ⟨window.start.seconds, 0⟩ ∧ 0 < window.start.nanos ∧
            window.start.nanos < 1000000000) := by
  have hwindow : endingInDays halfSecondLate 7 0 = .ok _ := rfl
  obtain ⟨-, hbetween⟩ := between_texts_iff_contains hwindow [⟨42, none⟩] [] "sub" .standard
  exact ⟨_, rfl, by decide +kernel, hbetween⟩

theorem between_texts_not_contained :
    Instant.ofText? "2026-03-01T22:30:00.5Z" = some halfSecondLate ∧
      ∃ window t, endingInDays halfSecondLate 7 0 = .ok window ∧
        Timestamp.ofText? "2026-03-01T22:30:00" = some t ∧
        window.IsBetweenTexts t ∧ window.contains t = false := by
  have hsecond : Timestamp.ofText? "2026-03-01T22:30:00" = some ⟨63939623400, 0⟩ := by
    decide +kernel
  refine ⟨by decide +kernel, _, ⟨63939623400, 0⟩, rfl, hsecond,
    isBetweenTexts_iff.mpr ⟨?_, ?_⟩, ?_⟩ <;> decide +kernel

end Window
end SegmentRules
