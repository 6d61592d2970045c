import KeyMacro.Main
import KeyMacro.File.Tree
import KeyMacro.Profile.Tag
import KeyMacro.Profile.File
import KeyMacro.Proofs.Script.Gap
import KeyMacro.Proofs.Script.Press
import KeyMacro.Proofs.Script.Handover
import KeyMacro.Proofs.Script.Log
import KeyMacro.Proofs.Script.Inert
import KeyMacro.Proofs.Payload.Decoding
import KeyMacro.Proofs.Listing.Script
import KeyMacro.Proofs.Profile.Field
import KeyMacro.Proofs.Command.Account
import KeyMacro.Proofs.Command.Order
import KeyMacro.Proofs.Listing.Unit
import KeyMacro.Proofs.Command.Answer
import KeyMacro.Proofs.Command.Print
import KeyMacro.Proofs.Payload.Format
import KeyMacro.Proofs.Key.Name
import KeyMacro.Proofs.Listing.Alike
import KeyMacro.Proofs.Script.Owed
import KeyMacro.Proofs.Script.BareKey
import KeyMacro.Proofs.Script.Setting
import KeyMacro.Proofs.Command.Skip
import KeyMacro.Proofs.Script.Size
import KeyMacro.Proofs.Profile.Layout
