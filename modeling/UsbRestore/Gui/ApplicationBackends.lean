-- SUMMARY: The application on Linux as root and on Windows tells the truth about the disk.
import UsbRestore.Gui.WindowWidgets
import UsbRestore.Platform.Services

/-!
# The application and its backends
-/

namespace UsbRestore

namespace Application

variable [Host]

/-- What the application says of the disk is true on Linux, where it is run by root, and on Windows. -/
theorem tellsTheTruth_of_backend [SerialCharacters] :
    (∀ (fuel : LoopFuel) (app : Application (LinuxDiskService.elevated fuel)),
      app.Reachable → app.TellsTheTruth) ∧
    ∀ (fuel : Nat) (app : Application (WindowsDiskService.diskService fuel)),
      app.Reachable → app.TellsTheTruth :=
  ⟨fun fuel _ => reachable_tellsTheTruth (LinuxDiskService.elevated_follows fuel),
    fun fuel _ => reachable_tellsTheTruth (WindowsDiskService.diskService_follows fuel)⟩

end Application

/-! ### A session with a stick -/

namespace StickSession

open SmallStick

def texts : Translators := ⟨Catalog.english, id, id⟩

abbrev App := Application (LinuxDiskService.elevated 9)

def turn : ApplicationStep (LinuxDiskService.elevated 9) := .turn 0 0 fun _ => linuxAnswers 1000 0

/-- The stick is found, selected, acknowledged and restored; then the window hears of it. -/
def steps : List (ApplicationStep (LinuxDiskService.elevated 9)) :=
  [.event (.scanFinished [disk] {} {}), .event .restoreClicked, .event (.dialog (.toggled true)),
    .event (.dialog .eraseClicked)] ++ List.replicate 129 turn ++ List.replicate 34 .deliver

def begun : App := .start texts .english .gpt .exFat

theorem steps_complete : ((begun.after steps).bind fun app =>
    app.window.restoreDialog.map fun shown => shown.dialog.indicator) = some .complete := by
  decide +kernel

theorem session : ∃ app shown, begun.after steps = some app ∧ app.Reachable ∧
    app.window.restoreDialog = some shown ∧ shown.dialog.indicator = .complete := by
  obtain ⟨app, happ, hcomplete⟩ := Option.bind_eq_some_iff.mp steps_complete
  obtain ⟨shown, hshown, hindicator⟩ := Option.map_eq_some_iff.mp hcomplete
  exact ⟨app, shown, happ, (Application.Reachable.start _ _ _ _).after happ, hshown, hindicator⟩

def scanned : List (ApplicationStep (LinuxDiskService.elevated 9)) :=
  [.event (.scanFinished [disk] {} {})]

theorem scanned_ready : ((begun.after scanned).map fun app => app.window.reaches .restoreClicked) =
    some true := by
  decide +kernel

end StickSession

namespace Application

open StickSession SmallStick WindowsStick

/-- At the end of the session one worker has restored the stick. -/
theorem reachable_keepsPromises_stick : ∃ app, begun.after steps = some app ∧ app.KeepsPromises := by
  obtain ⟨app, shown, happ, hreachable, -⟩ := session
  exact ⟨app, happ, reachable_keepsPromises hreachable⟩

/-- The stick is found, so that the button opens the dialog of its restore. -/
theorem reachable_widgetsAgree_stick : ∃ app, begun.after scanned = some app ∧ ∃ disk shown,
    app.window.Opens (LinuxDiskService.elevated 9) disk shown ∧
      PassedChecks (LinuxDiskService.elevated 9) shown.request := by
  obtain ⟨app, happ, hready⟩ := Option.map_eq_some_iff.mp scanned_ready
  have hreachable : app.Reachable := (Reachable.start _ _ _ _).after happ
  exact ⟨app, happ, (reachable_widgetsAgree hreachable).opens hready⟩

/-- The rows of the session are complete because the restore is. -/
theorem tellsTheTruth_of_backend_stick : ∃ app shown, begun.after steps = some app ∧
    app.window.restoreDialog = some shown ∧ shown.dialog.RowsAre (fun _ => .complete) := by
  obtain ⟨app, shown, happ, hreachable, hshown, hcomplete⟩ := session
  obtain ⟨-, -, -, -, -, -, hrows⟩ :=
    (tellsTheTruth_of_backend.1 9 app hreachable).complete shown hshown hcomplete
  exact ⟨app, shown, happ, hshown, hrows⟩

end Application

end UsbRestore
