import Phrasebook.Main
import Phrasebook.Session
import Phrasebook.Tag.Block
import Phrasebook.Proofs.CanonicalForm
import Phrasebook.Proofs.DefaultLocale
import Phrasebook.Proofs.MarkupSafety
import Phrasebook.Proofs.NamespaceFrame
import Phrasebook.Proofs.CoverageCount
import Phrasebook.Proofs.CheckedRendering
import Phrasebook.Proofs.CatalogReport
import Phrasebook.Proofs.EvalAsTag
import Phrasebook.Proofs.SessionRuns
import Phrasebook.Proofs.SavedConfig
import Phrasebook.Proofs.BlockRequests
import Phrasebook.Proofs.MarkupReadBack
import Phrasebook.Proofs.PointingBack
import Phrasebook.Proofs.NearestNames
import Phrasebook.Proofs.PlaceholderPaths
import Phrasebook.Proofs.ShownValues
