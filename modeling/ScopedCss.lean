import ScopedCss.Main
import ScopedCss.Proofs.Acceptance
import ScopedCss.Proofs.History
import ScopedCss.Proofs.Printing
import ScopedCss.Proofs.RoundTrip
import ScopedCss.Proofs.Generated
import ScopedCss.Proofs.Scripts
import ScopedCss.Proofs.Containment
import ScopedCss.Proofs.ThemeSwitches
import ScopedCss.Proofs.FailedMounts
import ScopedCss.Proofs.Forward
import ScopedCss.Proofs.Layers
import ScopedCss.Proofs.Courses
import ScopedCss.Proofs.Evolution
import ScopedCss.Proofs.ClassNames
import ScopedCss.Proofs.FileEnds
import ScopedCss.Proofs.Continuity
import ScopedCss.Proofs.StableNames
import ScopedCss.Proofs.Reentrancy
import ScopedCss.Proofs.CheckedNames
import ScopedCss.Proofs.ModuleNames
import ScopedCss.Proofs.EqualThemes
import ScopedCss.Proofs.Verdicts
import ScopedCss.Proofs.Concatenation
import ScopedCss.Proofs.Layout
import ScopedCss.Proofs.WellFormed
import ScopedCss.Proofs.Subscriptions
import ScopedCss.Proofs.EventLog
import ScopedCss.Proofs.FileSheets
import ScopedCss.Proofs.RenderCommand
import ScopedCss.Proofs.SelectorDots
import ScopedCss.Proofs.SlotOrder
import ScopedCss.Proofs.SelfContained
import ScopedCss.Proofs.Landmarks
import ScopedCss.Proofs.ClosingOrder
import ScopedCss.Proofs.FailurePlaces
import ScopedCss.Proofs.Indentation
import ScopedCss.Proofs.ClassnameFindings
import ScopedCss.Proofs.StyleElement
import ScopedCss.Proofs.ThemePaths
import ScopedCss.Proofs.ThemeTypes
import ScopedCss.Proofs.EmittedLiterals
