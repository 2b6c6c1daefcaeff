import OpenJfxWeb.JSC.ParserModes
import OpenJfxWeb.JSC.Subspace
import OpenJfxWeb.JSC.ProfilerJettisonReason
import OpenJfxWeb.WebCore.QualifiedName
import OpenJfxWeb.WebCore.QualifiedNameHash
import OpenJfxWeb.WebCore.QualifiedNameUpper
import OpenJfxWeb.WebCore.ScrollingTreeScrollingNode
import OpenJfxWeb.WebCore.ScrollingTreeScrollingNode.ScrollPosition
import OpenJfxWeb.WebCore.ScrollingTreeScrollingNode.DumpProperties
import OpenJfxWeb.WebCore.DOMURL
