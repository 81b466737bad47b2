import RmmAcs.Attest.History
import RmmAcs.Attest.Presence
import RmmAcs.Dev.Appended
import RmmAcs.Dev.CertChain
import RmmAcs.Dev.Doe
import RmmAcs.Dev.PdevTeardown
import RmmAcs.Dev.Report
import RmmAcs.Dev.VdevTeardown
import RmmAcs.Event
import RmmAcs.Framework
import RmmAcs.HeapLimits
import RmmAcs.Lib.Radix
import RmmAcs.Pcie.BarSize
import RmmAcs.Pcie.Bars
import RmmAcs.Pcie.Bdf
import RmmAcs.Pcie.BdfTable
import RmmAcs.Pcie.Capability
import RmmAcs.Pcie.Discovery
import RmmAcs.Pcie.Ecam
import RmmAcs.Pcie.Regions
import RmmAcs.Pcie.RootPort
import RmmAcs.Pcie.Termination
import RmmAcs.Planes
import RmmAcs.Print.Numbers
import RmmAcs.Print.PalPrintf
import RmmAcs.Print.Strcat
import RmmAcs.Realm.AuxMapping
import RmmAcs.Realm.Create
import RmmAcs.Realm.DevMem
import RmmAcs.Realm.MapSucceeds
import RmmAcs.Realm.OnHost
import RmmAcs.Realm.PrepSequence
import RmmAcs.Realm.Rec
import RmmAcs.Realm.RecExit
import RmmAcs.Realm.Ripas
import RmmAcs.Realm.S2ap
import RmmAcs.Realm.Setup
import RmmAcs.Realm.Tables
import RmmAcs.Rhi.FalRead
import RmmAcs.Rhi.Identity
import RmmAcs.Rhi.NonBlocking
import RmmAcs.Rhi.SharedSlot
import RmmAcs.Selection
import RmmAcs.Tracker.AuxInfo
import RmmAcs.Tracker.Cleanup
import RmmAcs.Tracker.Postamble
import RmmAcs.Tracker.Reset
import RmmAcs.Tracker.Unprotected
import RmmAcs.Xlat.Represent
import RmmAcs.Xlat.Tables
import RmmAcs.Xlat.Context
import RmmAcs.Xlat.MapRegion
import RmmAcs.Xlat.Mapped
import RmmAcs.Xlat.MmapArray
import RmmAcs.Xlat.Initial
import RmmAcs.Xlat.Dynamic
import RmmAcs.Xlat.Attributes
