import ChipEight.Main
import ChipEight.Terminal.Session
import ChipEight.Proofs.Calls
import ChipEight.Proofs.Failures
import ChipEight.Proofs.Reset
import ChipEight.Proofs.Raw.Totality
import ChipEight.Proofs.Footprint
import ChipEight.Proofs.Prompts
import ChipEight.Proofs.FrameGrid
import ChipEight.Proofs.Presentation
import ChipEight.Proofs.HeldKeys
import ChipEight.Proofs.RandomDraws
import ChipEight.Proofs.Batching
import ChipEight.Proofs.HiddenParts
import ChipEight.Proofs.SpriteParity
import ChipEight.Proofs.SpriteDrawing
import ChipEight.Proofs.RegisterArithmetic
import ChipEight.Proofs.Countdown
import ChipEight.Proofs.KeyRepeats
import ChipEight.Proofs.RegisterTransfer
import ChipEight.Proofs.DigitDisplay
import ChipEight.Proofs.Alignment
import ChipEight.Proofs.BellRings
import ChipEight.Proofs.FrameWaiting
import ChipEight.Proofs.DumpText
import ChipEight.Proofs.DumpFiller
import ChipEight.Proofs.Encoding
import ChipEight.Proofs.Raw.Screen
import ChipEight.Proofs.ScreenViews
import ChipEight.Proofs.ArchiveListing
